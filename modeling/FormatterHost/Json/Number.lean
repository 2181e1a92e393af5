import FormatterHost.Json.Reading
import FormatterHost.Number.Decimal
import FormatterHost.Number.Width

/-!
# Numbers in JSON text

A number is read into 64 bits while it fits.  Once a digit no longer fits, the digits that follow
only count as powers of ten, and the number is a real one: the significand times or divided by a
power of ten, in one step where the power has a representation of its own.
-/

namespace FormatterHost.Json

open Decimal (isDigit digitValue)

/-- The largest significand that is kept exactly. -/
def maxSignificand : Nat := 18446744073709551615

/-- Adds digits to a significand while they fit, and counts those that do not. -/
def addInteger (significand : Nat) : List Char → Nat × Nat
  | [] => (significand, 0)
  | c :: cs =>
    let next := significand * 10 + digitValue c
    if next ≤ maxSignificand then addInteger next cs else (significand, cs.length + 1)

/-- Adds digits behind the point while they fit, and counts them. -/
def addFraction (significand : Nat) : List Char → Nat × Nat
  | [] => (significand, 0)
  | c :: cs =>
    let next := significand * 10 + digitValue c
    if next ≤ maxSignificand then
      let (last, count) := addFraction next cs
      (last, count + 1)
    else (significand, 0)

/-- The largest exponent that is kept. -/
def maxExponent : Int := 2147483647

/-- The power of ten with a given exponent, for exponents up to 308. -/
def powerOfTen (exponent : Nat) : Float :=
  Float.ofScientific 1 false exponent

/-- A magnitude times a power of ten, unless it exceeds all real numbers that there are. -/
def scale (magnitude : Float) (exponent : Int) : Option Float :=
  if exponent.natAbs ≤ 308 then
    if 0 ≤ exponent then
      let scaled := magnitude * powerOfTen exponent.natAbs
      if scaled.isInf then none else some scaled
    else some (magnitude / powerOfTen exponent.natAbs)
  else if magnitude == 0.0 then some magnitude
  else if 0 ≤ exponent then none
  else scale (magnitude / powerOfTen 308) (exponent + 308)
termination_by exponent.natAbs
decreasing_by omega

/-- An exponent as written. -/
structure WrittenExponent where
  negative : Bool
  digits : List Char

/-- The real number of a significand, the exponent it has so far, and a written exponent. -/
def real? (significand : Nat) (exponent : Int) : Option WrittenExponent → Option Float
  | none => scale (Float.ofNat significand) exponent
  | some written =>
    let size : Int := Decimal.value written.digits
    if maxExponent < size then
      if significand ≠ 0 ∧ written.negative = false then none else some 0.0
    else
      let total := if written.negative then exponent - size else exponent + size
      scale (Float.ofNat significand) (max (-maxExponent - 1) (min maxExponent total))

/-- The parts of a number behind its sign. -/
structure Numeral where
  integer : List Char
  fraction : List Char
  exponent : Option WrittenExponent

/-- The number that a sign and a numeral stand for, unless it is too large. -/
def Numeral.number? (numeral : Numeral) (negative : Bool) : Option Number :=
  let (significand, dropped) := addInteger 0 numeral.integer
  match numeral.fraction, numeral.exponent, dropped with
  | [], none, 0 =>
    if negative = false then some (.integer significand)
    else if 0 < significand ∧ significand ≤ Width.count 63 then some (.integer (-significand))
    else some (.real (-(Float.ofNat significand)))
  | fraction, exponent, _ =>
    let (significand, count) := addFraction significand fraction
    match real? significand ((dropped : Int) - count) exponent with
    | none => none
    | some magnitude => some (.real (if negative then -magnitude else magnitude))

/-- Where a numeral breaks off: a reader of a value tells the end of the text from other mistakes,
passing over the number does not. -/
def brokenOff : List Char → Defect
  | [] => ⟨.unfinished, some .malformed⟩
  | _ :: _ => ⟨.malformed, some .malformed⟩

/-- Reads a written exponent, if there is one. -/
def readExponent (integer fraction : List Char) : List Char → Except Defect (Numeral × List Char)
  | [] => .ok (⟨integer, fraction, none⟩, [])
  | c :: cs =>
    if c = 'e' ∨ c = 'E' then
      let (negative, cs) :=
        match cs with
        | '-' :: rest => (true, rest)
        | '+' :: rest => (false, rest)
        | rest => (false, rest)
      match Decimal.span cs with
      | ([], rest) => .error (brokenOff rest)
      | (digits, rest) => .ok (⟨integer, fraction, some ⟨negative, digits⟩⟩, rest)
    else .ok (⟨integer, fraction, none⟩, c :: cs)

/-- Reads the digits behind the point, if there is one, and the exponent. -/
def readFraction (integer : List Char) : List Char → Except Defect (Numeral × List Char)
  | '.' :: cs =>
    match Decimal.span cs with
    | ([], rest) => .error (brokenOff rest)
    | (digits, rest) => readExponent integer digits rest
  | cs => readExponent integer [] cs

/-- Reads a numeral.  A leading zero stands alone. -/
def readNumeral : List Char → Except Defect (Numeral × List Char)
  | [] => .error (brokenOff [])
  | c :: cs =>
    if c = '0' then
      match cs with
      | d :: _ => if isDigit d then .error ⟨.malformed, some .malformed⟩ else readFraction ['0'] cs
      | [] => readFraction ['0'] []
    else if isDigit c then
      let (digits, rest) := Decimal.span cs
      readFraction (c :: digits) rest
    else .error ⟨.malformed, some .malformed⟩

/-- Reads a number behind its sign.  A number too large for any representation can still be passed
over. -/
def readNumber (negative : Bool) (cs : List Char) : Reading × Option (List Char) :=
  match readNumeral cs with
  | .error defect => (.flawed (.number defect), none)
  | .ok (numeral, rest) =>
    match numeral.number? negative with
    | some number => (.number number, some rest)
    | none => (.flawed (.number ⟨.malformed, none⟩), some rest)

end FormatterHost.Json
