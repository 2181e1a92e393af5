import FormatterHost.Guest.Basic

/-!
# The staging buffer

A plugin offers a window of its memory, the staging buffer, through which all bytes pass.  The
plugin may move and resize the window on any call, so the host asks for it anew for every chunk.
-/

namespace FormatterHost

/-- Where the staging buffer lies at the moment.  A buffer that holds nothing is not usable. -/
structure StagingBuffer where
  offset : UInt32
  capacity : UInt32
  capacity_pos : 0 < capacity.toNat

namespace StagingBuffer

/-- The buffer that a plugin reports.  Negative numbers and an empty buffer are refused. -/
def ofReported (offset capacity : Int32) : Except Failure StagingBuffer :=
  if h : 0 ≤ offset.toInt ∧ 0 < capacity.toInt then
    .ok ⟨offset.toUInt32, capacity.toUInt32, by
      have bits : capacity.toUInt32.toNat = capacity.toBitVec.toNat := rfl
      have value : capacity.toInt = capacity.toBitVec.toInt := rfl
      rw [value, BitVec.toInt_eq_toNat_cond] at h
      rw [bits]
      split at h <;> omega⟩
  else .error (.invalidBuffer offset capacity)

/-- Asks the plugin for the capacity and then for the offset. -/
def query {σ : Type} (guest : Guest σ) : Exchange σ StagingBuffer := do
  let capacity ← guest.callInt .stagingCapacity []
  let offset ← guest.callInt .stagingOffset []
  .ofExcept (ofReported offset capacity)

end StagingBuffer

end FormatterHost
