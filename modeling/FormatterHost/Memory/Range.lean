import FormatterHost.Failure

/-!
# Addresses and ranges

A guest address is 32 bits wide.  Before the host copies anything, the range it is about to touch is
checked against the size of the memory; the end of the range is computed without wrapping.
-/

namespace FormatterHost

namespace Address

/-- The address `bytes` further on, or the last address where there is none. -/
def advance (address bytes : UInt32) : UInt32 :=
  UInt32.ofNat (min (address.toNat + bytes.toNat) (UInt32.size - 1))

end Address

/-- A range of bytes inside a memory of `size` bytes. -/
structure MemoryRange (size : Nat) where
  start : Nat
  stop : Nat
  start_le_stop : start ≤ stop
  stop_le_size : stop ≤ size

namespace MemoryRange

/-- The range of `length` bytes from `offset` on, provided that it ends inside the memory. -/
def check (size : Nat) (offset length : UInt32) : Except Failure (MemoryRange size) :=
  if h : offset.toNat + length.toNat ≤ size then
    .ok ⟨offset.toNat, offset.toNat + length.toNat, Nat.le_add_right _ _, h⟩
  else
    .error (.memoryOutOfBounds offset length)

/-- A range is granted exactly when it ends inside the memory. -/
theorem check_eq_error_iff (size : Nat) (offset length : UInt32) (failure : Failure) :
    check size offset length = .error failure ↔
      size < offset.toNat + length.toNat ∧ failure = .memoryOutOfBounds offset length := by
  unfold check
  split <;> rename_i h
  · simp; omega
  · simp [eq_comm]; omega

end MemoryRange

end FormatterHost
