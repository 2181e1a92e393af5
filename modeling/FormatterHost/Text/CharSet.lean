/-!
# Sets of characters

A property of characters is given by the code points at which it begins and ceases to hold, in
ascending order.  A character has the property if an odd number of these lies at or below it.
-/

namespace FormatterHost

/-- A set of characters, by the code points where membership changes. -/
structure CharSet where
  changes : List Nat

namespace CharSet

/-- Whether a code point belongs to the set. -/
def containsCode (set : CharSet) (code : Nat) : Bool :=
  (set.changes.takeWhile (· ≤ code)).length % 2 == 1

/-- Whether a character belongs to the set. -/
def contains (set : CharSet) (c : Char) : Bool :=
  set.containsCode c.toNat

end CharSet

end FormatterHost
