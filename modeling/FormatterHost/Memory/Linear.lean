import FormatterHost.Bytes.Basic
import FormatterHost.Memory.Range

/-!
# Linear memory

A linear memory has a size and a content.  Only the part up to the last byte ever written is stored;
every byte after it is zero.  `byteAt` is the view through which the operations are described.
-/

namespace FormatterHost

/-- A linear memory of `size` bytes. -/
structure LinearMemory where
  size : Nat
  /-- The bytes up to the last one ever written. -/
  written : Array UInt8
  written_size_le : written.size ≤ size

namespace LinearMemory

/-- A memory of `size` zero bytes. -/
def zeros (size : Nat) : LinearMemory :=
  ⟨size, #[], Nat.zero_le _⟩

/-- The byte at an index; outside the memory there are zeros only. -/
def byteAt (memory : LinearMemory) (index : Nat) : UInt8 :=
  memory.written.getD index 0

/-- The `length` bytes from `start` on. -/
def slice (memory : LinearMemory) (start length : Nat) : Bytes :=
  (List.range length).map fun i => memory.byteAt (start + i)

/-- The stored part with `bytes` put at `start`. -/
def overwrite (written : Array UInt8) (start : Nat) (bytes : Bytes) : Array UInt8 :=
  (written ++ Array.replicate (start - written.size) 0).extract 0 start ++ bytes.toArray
    ++ written.extract (start + bytes.length) written.size

theorem size_overwrite (written : Array UInt8) (start : Nat) (bytes : Bytes) :
    (overwrite written start bytes).size = max written.size (start + bytes.length) := by
  simp [overwrite]
  omega

/-- The memory with `bytes` put at `start`; bytes that do not fit leave it as it is. -/
def put (memory : LinearMemory) (start : Nat) (bytes : Bytes) : LinearMemory :=
  if h : bytes ≠ [] ∧ start + bytes.length ≤ memory.size then
    ⟨memory.size, overwrite memory.written start bytes, by
      rw [size_overwrite]; exact Nat.max_le.2 ⟨memory.written_size_le, h.2⟩⟩
  else memory

/-- The memory enlarged by zero bytes. -/
def grow (memory : LinearMemory) (extra : Nat) : LinearMemory :=
  ⟨memory.size + extra, memory.written, Nat.le_trans memory.written_size_le (Nat.le_add_right _ _)⟩

/-- Copies bytes out, within bounds. -/
def read (memory : LinearMemory) (offset length : UInt32) : Except Failure Bytes :=
  match MemoryRange.check memory.size offset length with
  | .ok range => .ok (memory.slice range.start (range.stop - range.start))
  | .error failure => .error failure

/-- Copies bytes in, within bounds.  More bytes than an address can count never fit. -/
def write (memory : LinearMemory) (offset : UInt32) (bytes : Bytes) :
    Except Failure LinearMemory :=
  if bytes.length < UInt32.size then
    match MemoryRange.check memory.size offset (UInt32.ofNat bytes.length) with
    | .ok range => .ok (memory.put range.start bytes)
    | .error failure => .error failure
  else .error (.memoryOutOfBounds offset (UInt32.ofNat (UInt32.size - 1)))

@[simp] theorem size_zeros (size : Nat) : (zeros size).size = size := rfl

@[simp] theorem byteAt_zeros (size index : Nat) : (zeros size).byteAt index = 0 := by
  simp [byteAt, zeros]

@[simp] theorem size_grow (memory : LinearMemory) (extra : Nat) :
    (memory.grow extra).size = memory.size + extra := rfl

@[simp] theorem byteAt_grow (memory : LinearMemory) (extra index : Nat) :
    (memory.grow extra).byteAt index = memory.byteAt index := rfl

@[simp] theorem size_put (memory : LinearMemory) (start : Nat) (bytes : Bytes) :
    (memory.put start bytes).size = memory.size := by
  unfold put
  split <;> rfl

@[simp] theorem length_slice (memory : LinearMemory) (start length : Nat) :
    (memory.slice start length).length = length := by
  simp [slice]

/-- Putting bytes changes exactly the range they cover. -/
theorem byteAt_put (memory : LinearMemory) (start : Nat) (bytes : Bytes)
    (fits : start + bytes.length ≤ memory.size) (index : Nat) :
    (memory.put start bytes).byteAt index =
      if start ≤ index ∧ index < start + bytes.length then bytes.getD (index - start) 0
      else memory.byteAt index := by
  unfold put
  split
  · rename_i h
    simp only [byteAt, overwrite, Array.getD_eq_getD_getElem?, List.getD_eq_getElem?_getD]
    by_cases below : index < start
    · have : ¬ (start ≤ index ∧ index < start + bytes.length) := by omega
      rw [if_neg this, Array.append_assoc, Array.getElem?_append_left (by simp; omega)]
      rw [Array.getElem?_extract]
      simp only [Nat.zero_add]
      by_cases stored : index < memory.written.size
      · rw [if_pos (by simp; omega), Array.getElem?_append_left stored]
      · rw [if_pos (by simp; omega), Array.getElem?_append_right (by omega),
          Array.getElem?_eq_none (show memory.written.size ≤ index by omega)]
        rw [Array.getElem?_replicate]
        split <;> rfl
    · by_cases inside : index < start + bytes.length
      · rw [if_pos ⟨by omega, inside⟩, Array.append_assoc,
          Array.getElem?_append_right (by simp; omega),
          Array.getElem?_append_left (by simp; omega)]
        rw [List.getElem?_toArray]
        congr 2
        simp
        omega
      · rw [if_neg (by omega), Array.getElem?_append_right (by simp; omega)]
        rw [Array.getElem?_extract]
        by_cases stored : index < memory.written.size
        · rw [if_pos (by simp; omega)]
          congr 2
          simp
          omega
        · rw [if_neg (by simp; omega), Array.getElem?_eq_none (by omega)]
  · rename_i h
    have empty : bytes = [] := by
      by_cases h' : bytes = []
      · exact h'
      · exact absurd ⟨h', fits⟩ h
    subst empty
    rw [if_neg (by simp only [List.length_nil]; omega)]

end LinearMemory

end FormatterHost
