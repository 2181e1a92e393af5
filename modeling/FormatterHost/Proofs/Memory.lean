import FormatterHost.Memory.Linear

/-!
# Memory access

Within the bounds of a memory, reading and writing succeed, and bytes that have been written are
read back.
-/

namespace FormatterHost.LinearMemory

theorem read_of_le (memory : LinearMemory) {offset length : UInt32}
    (fits : offset.toNat + length.toNat ≤ memory.size) :
    memory.read offset length = .ok (memory.slice offset.toNat length.toNat) := by
  rw [read, MemoryRange.check, dif_pos fits]
  simp only [Nat.add_sub_cancel_left]

/-- Whatever is read has the length that was asked for. -/
theorem length_of_read {memory : LinearMemory} {offset length : UInt32} {bytes : Bytes}
    (copied : memory.read offset length = .ok bytes) : bytes.length = length.toNat := by
  rw [read, MemoryRange.check] at copied
  split at copied
  · rename_i range granted
    split at granted
    · cases granted
      cases copied
      rw [length_slice, Nat.add_sub_cancel_left]
    · cases granted
  · cases copied

/-- Reading fails at the bounds only. -/
theorem failure_of_read {memory : LinearMemory} {offset length : UInt32} {failure : Failure}
    (failed : memory.read offset length = .error failure) :
    failure = .memoryOutOfBounds offset length := by
  rw [read] at failed
  split at failed
  · cases failed
  · rename_i refused
    cases failed
    exact ((MemoryRange.check_eq_error_iff _ _ _ _).1 refused).2

/-- Writing fails at the bounds only. -/
theorem failure_of_write {memory : LinearMemory} {offset : UInt32} {bytes : Bytes}
    {failure : Failure} (failed : memory.write offset bytes = .error failure) :
    ∃ length, failure = .memoryOutOfBounds offset length := by
  rw [write] at failed
  split at failed
  · split at failed
    · cases failed
    · rename_i refused
      cases failed
      exact ⟨_, ((MemoryRange.check_eq_error_iff _ _ _ _).1 refused).2⟩
  · cases failed
    exact ⟨_, rfl⟩

theorem write_of_le (memory : LinearMemory) {offset : UInt32} {bytes : Bytes}
    (short : bytes.length < UInt32.size) (fits : offset.toNat + bytes.length ≤ memory.size) :
    memory.write offset bytes = .ok (memory.put offset.toNat bytes) := by
  have counted : (UInt32.ofNat bytes.length).toNat = bytes.length :=
    UInt32.toNat_ofNat_of_lt' short
  rw [write, if_pos short, MemoryRange.check, dif_pos (by rw [counted]; exact fits)]

/-- A successful write puts the bytes where they fit. -/
theorem eq_put_of_write {memory memory' : LinearMemory} {offset : UInt32} {bytes : Bytes}
    (written : memory.write offset bytes = .ok memory') :
    offset.toNat + bytes.length ≤ memory.size ∧ memory' = memory.put offset.toNat bytes := by
  rw [write] at written
  split at written
  · rename_i short
    have counted : (UInt32.ofNat bytes.length).toNat = bytes.length :=
      UInt32.toNat_ofNat_of_lt' short
    by_cases fits : offset.toNat + (UInt32.ofNat bytes.length).toNat ≤ memory.size
    · rw [MemoryRange.check, dif_pos fits] at written
      cases written
      exact ⟨counted ▸ fits, rfl⟩
    · rw [MemoryRange.check, dif_neg fits] at written
      cases written
  · cases written

/-- A write changes no byte outside of the range that it covers. -/
theorem byteAt_of_write {memory memory' : LinearMemory} {offset : UInt32} {bytes : Bytes}
    (written : memory.write offset bytes = .ok memory') {index : Nat}
    (outside : index < offset.toNat ∨ offset.toNat + bytes.length ≤ index) :
    memory'.byteAt index = memory.byteAt index := by
  obtain ⟨fits, rfl⟩ := eq_put_of_write written
  rw [byteAt_put memory _ bytes fits, if_neg (by omega)]

/-- Bytes put at a place are found there. -/
theorem slice_put (memory : LinearMemory) (start : Nat) (bytes : Bytes)
    (fits : start + bytes.length ≤ memory.size) :
    (memory.put start bytes).slice start bytes.length = bytes := by
  apply List.ext_getElem
  · exact length_slice _ _ _
  · intro i _ inside
    simp only [slice, List.getElem_map, List.getElem_range]
    rw [byteAt_put memory start bytes fits, if_pos ⟨by omega, by omega⟩, Nat.add_sub_cancel_left]
    exact (List.getElem_eq_getD 0).symm

end FormatterHost.LinearMemory
