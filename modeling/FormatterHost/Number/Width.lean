/-!
# Widths

How many numbers fit into a given number of bits.
-/

namespace FormatterHost.Width

/-- The number of values that `bits` bits can take. -/
def count (bits : Nat) : Nat :=
  Nat.pow 2 bits

end FormatterHost.Width
