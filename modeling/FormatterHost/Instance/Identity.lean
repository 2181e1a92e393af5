import FormatterHost.Bytes.Basic
import FormatterHost.Number.Width

/-!
# Identities

Every instance has an identity of its own: thirty-six characters that hold the time at which it was
made, in milliseconds, and chance for the rest.
-/

namespace FormatterHost.Identity

/-- The lowest `count` hexadecimal digits of a number. -/
def hexTail (count n : Nat) : List Char :=
  (List.range count).reverse.map fun i => Bytes.hexDigit (n / Nat.pow 16 i % 16)

/-- The identity made at a time, from a random number. -/
def make (time random : Nat) : String :=
  String.ofList (hexTail 8 (time / Width.count 16) ++ '-' :: hexTail 4 time ++ '-' :: '7' ::
    hexTail 3 random ++ '-' :: Bytes.hexDigit (8 + random / Width.count 12 % 4) ::
    hexTail 3 (random / Width.count 14) ++ '-' :: hexTail 12 (random / Width.count 26))

end FormatterHost.Identity
