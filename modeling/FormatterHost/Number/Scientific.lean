import FormatterHost.Number.Decimal
import FormatterHost.Number.Width

/-!
# Reading integers and real numbers

The plain notations of numbers in text: an optional sign and digits for integers; for real numbers
also a point, an exponent, and the words for infinity and for what is not a number.
-/

namespace FormatterHost.Scientific

open Decimal (isDigit)

/-- A sign, and whether it is a minus; no sign counts as a plus. -/
def readSign : List Char → Bool × List Char
  | '-' :: cs => (true, cs)
  | '+' :: cs => (false, cs)
  | cs => (false, cs)

/-- The value of a text of digits only. -/
def natural? (cs : List Char) : Option Nat :=
  if cs ≠ [] ∧ cs.all isDigit then some (Decimal.value cs) else none

/-- A natural number of at most `limit`, with an optional plus. -/
def unsigned? (limit : Nat) (text : String) : Option Nat :=
  let digits :=
    match text.toList with
    | '+' :: cs => cs
    | cs => cs
  (natural? digits).filter (· ≤ limit)

/-- An integer of 64 bits with an optional sign. -/
def signed? (text : String) : Option Int :=
  let (negative, digits) := readSign text.toList
  match natural? digits with
  | none => none
  | some n =>
    if negative then if n ≤ Width.count 63 then some (-n) else none
    else if n < Width.count 63 then some n else none

/-- The real number nearest to `significand * 10 ^ exponent`. -/
def nearest (significand : Nat) (exponent : Int) : Float :=
  let size := (Decimal.digits significand).length + exponent
  if significand = 0 ∨ size < -330 then 0.0
  else if 310 < size then 1.0 / 0.0
  else Float.ofScientific significand (exponent < 0) exponent.natAbs

/-- A written exponent: nothing, or the letter `e`, an optional sign and digits. -/
def exponent? : List Char → Option Int
  | [] => some 0
  | c :: cs =>
    if c = 'e' ∨ c = 'E' then
      let (negative, digits) := readSign cs
      (natural? digits).map fun n => if negative then -(n : Int) else n
    else none

/-- The magnitude that a text without a sign denotes. -/
def magnitude? (cs : List Char) : Option Float :=
  let (integer, rest) := Decimal.span cs
  let (fraction, rest) :=
    match rest with
    | '.' :: rest => Decimal.span rest
    | rest => ([], rest)
  if integer = [] ∧ fraction = [] then none
  else
    (exponent? rest).map fun exponent =>
      nearest (Decimal.value (integer ++ fraction)) (exponent - fraction.length)

/-- The real number that a text denotes. -/
def real? (text : String) : Option Float :=
  let (negative, cs) := readSign text.toList
  let word := String.ofList (cs.map Char.toLower)
  let magnitude :=
    if word = "inf" ∨ word = "infinity" then some (1.0 / 0.0)
    else if word = "nan" then some (0.0 / 0.0)
    else magnitude? cs
  magnitude.map fun x => if negative then -x else x

end FormatterHost.Scientific
