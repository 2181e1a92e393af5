import FormatterHost.Number.Scientific
import FormatterHost.Number.Width
import FormatterHost.Settings.Node
import FormatterHost.Toml.Scanner

/-!
# Numbers and dates of TOML

Digits may be grouped by single underscores.  A date or a time is a value of its own, and stands for
its text in normal form.
-/

namespace FormatterHost.Toml

open Decimal (isDigit)

/-- Digits of one kind, between which single underscores may stand, without the underscores. -/
def groupedDigits? (isDigit : Char → Bool) : List Char → Option (List Char × List Char)
  | [] => none
  | c :: cs =>
    if isDigit c then
      match cs with
      | '_' :: d :: rest =>
        if isDigit d then
          match groupedDigits? isDigit (d :: rest) with
          | some (digits, tail) => some (c :: digits, tail)
          | none => none
        else none
      | '_' :: [] => none
      | d :: rest =>
        if isDigit d then
          match groupedDigits? isDigit (d :: rest) with
          | some (digits, tail) => some (c :: digits, tail)
          | none => none
        else some ([c], d :: rest)
      | [] => some ([c], [])
    else none

/-- A sign, as written. -/
def sign : List Char → List Char × List Char
  | '+' :: cs => (['+'], cs)
  | '-' :: cs => (['-'], cs)
  | cs => ([], cs)

/-- Decimal digits that have no leading zero. -/
def decimalDigits? (cs : List Char) : Option (List Char × List Char) :=
  match cs with
  | '0' :: d :: rest => if isDigit d || d = '_' then none else some (['0'], d :: rest)
  | cs => groupedDigits? isDigit cs

/-- An integer that fits into 64 bits with a sign. -/
def bounded? (value : Int) : Option Scalar :=
  if -(Width.count 63) ≤ value ∧ value < Width.count 63 then some (.integer value) else none

/-- The value of digits in some base. -/
def digitsValue (base : Nat) (digits : List Char) : Nat :=
  digits.foldl (fun value c => value * base + (Bytes.hexValue? c).getD 0) 0

/-- Whether a character is a digit in some base. -/
def isDigitIn (base : Nat) (c : Char) : Bool :=
  ((Bytes.hexValue? c).filter (· < base)).isSome

/-- An integer in base sixteen, eight or two. -/
def prefixedInteger? (base : Nat) (cs : List Char) : Option (Scalar × List Char) := do
  let (digits, rest) ← groupedDigits? (isDigitIn base) cs
  return (← bounded? (digitsValue base digits), rest)

/-- An integer. -/
def integer? : List Char → Option (Scalar × List Char)
  | '0' :: 'x' :: cs => prefixedInteger? 16 cs
  | '0' :: 'o' :: cs => prefixedInteger? 8 cs
  | '0' :: 'b' :: cs => prefixedInteger? 2 cs
  | cs => do
    let (sign, cs) := sign cs
    let (digits, rest) ← decimalDigits? cs
    let size : Int := Decimal.value digits
    return (← bounded? (if sign = ['-'] then -size else size), rest)

/-- An exponent, as written. -/
def exponentText? : List Char → Option (List Char × List Char)
  | [] => none
  | c :: cs =>
    if c = 'e' ∨ c = 'E' then do
      let (sign, cs) := sign cs
      let (digits, rest) ← groupedDigits? isDigit cs
      return ('e' :: sign ++ digits, rest)
    else none

/-- A real number with a fraction or an exponent: its text without underscores. -/
def realText? (cs : List Char) : Option (List Char × List Char) := do
  let (sign, cs) := sign cs
  let (integer, cs) ← decimalDigits? cs
  match cs with
  | '.' :: cs =>
    let (fraction, cs) ← groupedDigits? isDigit cs
    let (exponent, cs) := (exponentText? cs).getD ([], cs)
    return (sign ++ integer ++ '.' :: fraction ++ exponent, cs)
  | cs =>
    let (exponent, cs) ← exponentText? cs
    return (sign ++ integer ++ exponent, cs)

/-- Whether the words for special numbers follow. -/
def specialReal? (cs : List Char) : Option (Float × List Char) :=
  let (sign, cs) := sign cs
  let signed (x : Float) : Float := if sign = ['-'] then -x else x
  match cs with
  | 'i' :: 'n' :: 'f' :: rest => some (signed (1.0 / 0.0), rest)
  | 'n' :: 'a' :: 'n' :: rest => some (signed (0.0 / 0.0), rest)
  | _ => none

/-- A number of exactly `count` digits. -/
def fixedDigits? : (count : Nat) → List Char → Option (List Char × List Char)
  | 0, cs => some ([], cs)
  | count + 1, c :: cs =>
    if isDigit c then (fixedDigits? count cs).map fun (digits, rest) => (c :: digits, rest)
    else none
  | _ + 1, [] => none

/-- The number of days of a month. -/
def daysIn (year month : Nat) : Nat :=
  if month = 2 then
    if year % 4 = 0 ∧ (year % 100 ≠ 0 ∨ year % 400 = 0) then 29 else 28
  else if month = 4 ∨ month = 6 ∨ month = 9 ∨ month = 11 then 30
  else 31

/-- A date, as text. -/
def date? (cs : List Char) : Option (List Char × List Char) := do
  let (year, cs) ← fixedDigits? 4 cs
  let '-' :: cs := cs | none
  let (month, cs) ← fixedDigits? 2 cs
  let '-' :: cs := cs | none
  let (day, cs) ← fixedDigits? 2 cs
  let number := Decimal.value month
  let count := Decimal.value day
  if 1 ≤ number ∧ number ≤ 12 ∧ 1 ≤ count ∧ count ≤ daysIn (Decimal.value year) number then
    return (year ++ '-' :: month ++ '-' :: day, cs)
  else none

/-- The digits of a fraction of a second, to nanoseconds and without trailing zeros. -/
def trimFraction (digits : List Char) : List Char :=
  ((digits.take 9).reverse.dropWhile (· == '0')).reverse

/-- A time of day, as text. -/
def time? (cs : List Char) : Option (List Char × List Char) := do
  let (hour, cs) ← fixedDigits? 2 cs
  let ':' :: cs := cs | none
  let (minute, cs) ← fixedDigits? 2 cs
  let ':' :: cs := cs | none
  let (second, cs) ← fixedDigits? 2 cs
  if Decimal.value hour ≤ 23 ∧ Decimal.value minute ≤ 59 ∧ Decimal.value second ≤ 60 then
    let text := hour ++ ':' :: minute ++ ':' :: second
    match cs with
    | '.' :: rest =>
      match Decimal.span rest with
      | ([], _) => return (text, cs)
      | (digits, rest) =>
        match trimFraction digits with
        | [] => return (text, rest)
        | fraction => return (text ++ '.' :: fraction, rest)
    | cs => return (text, cs)
  else none

/-- The distance from universal time, as text. -/
def timeOffset? : List Char → Option (List Char × List Char)
  | [] => none
  | c :: cs =>
    if c = 'Z' ∨ c = 'z' then some (['Z'], cs)
    else if c = '+' ∨ c = '-' then do
      let (hour, cs) ← fixedDigits? 2 cs
      let ':' :: cs := cs | none
      let (minute, cs) ← fixedDigits? 2 cs
      let total := Decimal.value hour * 60 + Decimal.value minute
      if Decimal.value hour ≤ 23 ∧ Decimal.value minute ≤ 59 then
        return ((if total = 0 then '+' else c) :: hour ++ ':' :: minute, cs)
      else none
    else none

/-- Whether a distance from universal time is begun. -/
def startsOffset : List Char → Bool
  | c :: _ => c = '+' ∨ c = '-'
  | [] => false

/-- Whether a time of day is begun. -/
def startsTime (cs : List Char) : Bool :=
  match fixedDigits? 2 cs with
  | some (_, ':' :: _) => true
  | _ => false

/-- Whether a date is begun. -/
def startsDate (cs : List Char) : Bool :=
  match fixedDigits? 4 cs with
  | some (_, '-' :: _) => true
  | _ => false

/-- A date, a time of day, or both with or without the distance from universal time. -/
def dateTime? (cs : List Char) : Option (List Char × List Char) :=
  if startsDate cs then do
    let (date, rest) ← date? cs
    match rest with
    | c :: behind =>
      if (c = 'T' ∨ c = 't' ∨ c = ' ') ∧ startsTime behind then
        let (time, rest) ← time? behind
        match timeOffset? rest with
        | some (offset, rest) => return (date ++ 'T' :: time ++ offset, rest)
        | none => if startsOffset rest then none else return (date ++ 'T' :: time, rest)
      else return (date, rest)
    | [] => return (date, [])
  else time? cs

/-- A number or a date. -/
def number? (cs : List Char) : Option (Scalar × List Char) :=
  if startsDate cs || startsTime cs then
    (dateTime? cs).map fun (text, rest) => (.string (String.ofList text), rest)
  else
    match realText? cs with
    | some (text, rest) =>
      match Scientific.real? (String.ofList text) with
      | some x => if x == 1.0 / 0.0 then none else some (.real x, rest)
      | none => none
    | none =>
      match specialReal? cs with
      | some (x, rest) => some (.real x, rest)
      | none => integer? cs

end FormatterHost.Toml
