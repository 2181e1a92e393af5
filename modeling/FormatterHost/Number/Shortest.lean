import FormatterHost.Number.Decimal
import FormatterHost.Number.Width

/-!
# Shortest decimal text of a real number

A binary number stands for an interval of reals: those that are nearer to it than to its neighbours.
Its shortest text is found by laying decimal grids over that interval, from the coarsest to the
finest, and taking the first grid with a point inside; of two points the one nearer to the
number.  The text is positional: there is never an exponent.
-/

namespace FormatterHost.Shortest

/-- A positive number `middle * 2 ^ exponent` and the ends of its interval, on a common scale. -/
structure Interval where
  low : Nat
  middle : Nat
  high : Nat
  exponent : Int
  /-- Whether the ends themselves belong to the interval. -/
  closed : Bool

/-- The interval of a positive finite number given by its bits. -/
def Interval.ofBits (bits : Nat) : Interval :=
  let stored := bits % Width.count 52
  let scale := bits / Width.count 52 % Width.count 11
  let significand := if scale = 0 then stored else stored + Width.count 52
  let exponent : Int := (max scale 1 : Nat) - 1075
  let below := if stored = 0 ∧ 1 < scale then 1 else 2
  ⟨4 * significand - below, 4 * significand, 4 * significand + 2, exponent - 2,
    significand % 2 == 0⟩

/-- The factors `num` and `den` for which `n * 2 ^ binary = (n * num / den) * 10 ^ decimal`. -/
def factors (binary decimal : Int) : Nat × Nat :=
  (Width.count binary.toNat * Nat.pow 10 (-decimal).toNat,
    Width.count (-binary).toNat * Nat.pow 10 decimal.toNat)

/-- Whether the grid point `point * den` lies in the interval scaled by `num`. -/
def Interval.holds (interval : Interval) (num den point : Nat) : Bool :=
  if interval.closed then
    interval.low * num ≤ point * den && point * den ≤ interval.high * num
  else interval.low * num < point * den && point * den < interval.high * num

/-- The point of the grid of a power of ten that represents the number best, if one lies inside. -/
def Interval.pointOn? (interval : Interval) (decimal : Int) : Option Nat :=
  let (num, den) := factors interval.exponent decimal
  let middle := interval.middle * num
  let below := middle / den
  let above := below + 1
  match interval.holds num den below, interval.holds num den above with
  | true, true =>
    if middle - below * den ≤ above * den - middle then some below else some above
  | true, false => some below
  | false, true => some above
  | false, false => none

/-- The first grid with a point inside, `count` grids from the one of 10 ^ `decimal` down. -/
def Interval.search (interval : Interval) (decimal : Int) : Nat → Nat × Int
  | 0 => (interval.middle, 0)
  | count + 1 =>
    match interval.pointOn? decimal with
    | some point => (point, decimal)
    | none => interval.search (decimal - 1) count

/-- The shortest decimal `digits * 10 ^ exponent` of a positive finite number. -/
def ofBits (bits : Nat) : Nat × Int :=
  (Interval.ofBits bits).search 309 700

/-- A decimal without an exponent. -/
def positional (point : Nat) (exponent : Int) : List Char :=
  let digits := Decimal.digits point
  if 0 ≤ exponent then digits ++ List.replicate exponent.toNat '0'
  else
    let places := exponent.natAbs
    if digits.length ≤ places then
      ['0', '.'] ++ List.replicate (places - digits.length) '0' ++ digits
    else digits.take (digits.length - places) ++ '.' :: digits.drop (digits.length - places)

/-- The text of a real number. -/
def text (x : Float) : String :=
  if x.isNaN then "NaN"
  else
    let bits := x.toBits.toNat
    let magnitude := bits % Width.count 63
    let sign := if Width.count 63 ≤ bits then ['-'] else []
    if x.isInf then String.ofList (sign ++ "inf".toList)
    else if magnitude = 0 then String.ofList (sign ++ ['0'])
    else
      let (point, exponent) := ofBits magnitude
      String.ofList (sign ++ positional point exponent)

/-- The text of a real number, with a point even where no digits follow it. -/
def textWithPoint (x : Float) : String :=
  let plain := text x
  if x.isNaN || x.isInf || plain.contains '.' then plain else plain ++ ".0"

end FormatterHost.Shortest
