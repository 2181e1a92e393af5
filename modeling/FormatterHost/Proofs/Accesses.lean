import FormatterHost.Guest.Recorded
import FormatterHost.Plugin.Wasm
import FormatterHost.Proofs.Memory

/-!
# Accesses to the memory of a plugin

The host copies bytes out of the linear memory of a plugin and into it.  An access that fits is
exact, and one that does not fit changes nothing.  So after any series of accesses every byte is the
one that was last written over it, or the one that was there from the start.
-/

namespace FormatterHost

/-! ## Where a range ends -/

namespace MemoryRange

/-- Where a range ends, computed with words of 64 bits; there is no such word when the sum wraps. -/
def stopWord? (offset length : UInt32) : Option UInt64 :=
  let stop := offset.toUInt64 + length.toUInt64
  if stop < offset.toUInt64 then none else some stop

/-- The check with words: both bounds of the range, provided that it ends inside the memory. -/
def checkWords (size : Nat) (offset length : UInt32) : Except Failure (Nat × Nat) :=
  match stopWord? offset length with
  | none => .error (.memoryOutOfBounds offset length)
  | some stop =>
    if size < stop.toNat then .error (.memoryOutOfBounds offset length)
    else .ok (offset.toNat, stop.toNat)

/-- A word has room for the sum of any two addresses. -/
theorem toNat_add_toUInt64 (offset length : UInt32) :
    (offset.toUInt64 + length.toUInt64).toNat = offset.toNat + length.toNat := by
  have room : offset.toNat + length.toNat < 2 ^ 64 := by
    have := offset.toNat_lt
    have := length.toNat_lt
    omega
  rw [UInt64.toNat_add, UInt32.toNat_toUInt64, UInt32.toNat_toUInt64, Nat.mod_eq_of_lt room]

/-- The end of a range never wraps. -/
theorem exists_stopWord (offset length : UInt32) :
    ∃ stop, stopWord? offset length = some stop ∧
      stop.toNat = offset.toNat + length.toNat := by
  have sum := toNat_add_toUInt64 offset length
  have forward : ¬ offset.toUInt64 + length.toUInt64 < offset.toUInt64 := by
    rw [UInt64.lt_iff_toNat_lt, sum, UInt32.toNat_toUInt64]
    exact Nat.not_lt.2 (Nat.le_add_right _ _)
  exact ⟨_, if_neg forward, sum⟩

/-- The check is the one with words. -/
theorem map_check (size : Nat) (offset length : UInt32) :
    (check size offset length).map (fun range => (range.start, range.stop)) =
      checkWords size offset length := by
  obtain ⟨stop, found, sum⟩ := exists_stopWord offset length
  simp only [checkWords, found, sum]
  by_cases fits : offset.toNat + length.toNat ≤ size
  · rw [check, dif_pos fits, if_neg (Nat.not_lt.2 fits)]
    rfl
  · rw [check, dif_neg fits, if_pos (Nat.not_le.1 fits)]
    rfl

end MemoryRange

namespace LinearMemory

theorem read_of_not_le (memory : LinearMemory) {offset length : UInt32}
    (beyond : ¬ offset.toNat + length.toNat ≤ memory.size) :
    memory.read offset length = .error (.memoryOutOfBounds offset length) := by
  rw [read, MemoryRange.check, dif_neg beyond]

theorem write_of_not_le (memory : LinearMemory) {offset : UInt32} {bytes : Bytes}
    (short : bytes.length < UInt32.size)
    (beyond : ¬ offset.toNat + bytes.length ≤ memory.size) :
    memory.write offset bytes =
      .error (.memoryOutOfBounds offset (UInt32.ofNat bytes.length)) := by
  have counted : (UInt32.ofNat bytes.length).toNat = bytes.length :=
    UInt32.toNat_ofNat_of_lt' short
  rw [write, if_pos short, MemoryRange.check, dif_neg (by rw [counted]; exact beyond)]

end LinearMemory

namespace HostedPlugin

variable {runtime : Wasm.Runtime}

/-! ## One access -/

/-- The byte at an index of the linear memory. -/
def byteAt (plugin : HostedPlugin runtime) (index : Nat) : UInt8 :=
  plugin.linearMemory.byteAt index

/-- Two states of a plugin that agree on everything but the bytes of the linear memory. -/
structure AgreesBesideBytes (plugin plugin' : HostedPlugin runtime) : Prop where
  info : plugin'.info = plugin.info
  limits : plugin'.limits = plugin.limits
  memory : plugin'.memory = plugin.memory
  functions : plugin'.functions = plugin.functions
  rest : plugin'.live.rest = plugin.live.rest
  maxima : plugin'.live.memories.map (·.maximum) = plugin.live.memories.map (·.maximum)
  others : ∀ index, index ≠ plugin.memory →
    plugin'.live.memories[index]? = plugin.live.memories[index]?
  memorySize : plugin'.memorySize = plugin.memorySize

/-- What a successful write of `bytes` at `offset` makes of a plugin. -/
structure Overwritten (offset : UInt32) (bytes : Bytes) (plugin plugin' : HostedPlugin runtime) :
    Prop where
  inside : ∀ i (h : i < bytes.length), plugin'.byteAt (offset.toNat + i) = bytes[i]
  outside : ∀ index, index < offset.toNat ∨ offset.toNat + bytes.length ≤ index →
    plugin'.byteAt index = plugin.byteAt index
  agrees : plugin.AgreesBesideBytes plugin'

/-- The content put into a plugin is found there; without a memory there is no content but none. -/
theorem linearMemory_setLinearMemory (plugin : HostedPlugin runtime) {memory : LinearMemory}
    (same : plugin.live.memories[plugin.memory]? = none → memory = .zeros 0) :
    (plugin.setLinearMemory memory).linearMemory = memory := by
  cases found : plugin.live.memories[plugin.memory]? with
  | none =>
      rw [same found]
      simp only [linearMemory, setLinearMemory, List.getElem?_modify, found]
      rfl
  | some cell =>
      simp only [linearMemory, setLinearMemory, List.getElem?_modify, found]
      simp

/-- Putting bytes where they fit puts them into the linear memory of the plugin. -/
theorem linearMemory_put (plugin : HostedPlugin runtime) {start : Nat} {bytes : Bytes}
    (fits : start + bytes.length ≤ plugin.memorySize) :
    (plugin.setLinearMemory (plugin.linearMemory.put start bytes)).linearMemory =
      plugin.linearMemory.put start bytes := by
  refine plugin.linearMemory_setLinearMemory fun none_found => ?_
  have nothing : plugin.linearMemory = .zeros 0 := by rw [linearMemory, none_found]
  have empty : bytes = [] := by
    rw [memorySize, nothing, LinearMemory.size_zeros] at fits
    exact List.eq_nil_of_length_eq_zero (by omega)
  rw [nothing, empty, LinearMemory.put, dif_neg (fun h => h.1 rfl)]

theorem agreesBesideBytes_put (plugin : HostedPlugin runtime) {start : Nat} {bytes : Bytes}
    (fits : start + bytes.length ≤ plugin.memorySize) :
    plugin.AgreesBesideBytes
      (plugin.setLinearMemory (plugin.linearMemory.put start bytes)) where
  info := rfl
  limits := rfl
  memory := rfl
  functions := rfl
  rest := rfl
  maxima := by
    apply List.ext_getElem?
    intro i
    simp only [setLinearMemory, List.getElem?_map, List.getElem?_modify]
    cases plugin.live.memories[i]? with
    | none => rfl
    | some cell => by_cases here : plugin.memory = i <;> simp [here]
  others := by
    intro index apart
    simp only [setLinearMemory, List.getElem?_modify, if_neg (Ne.symm apart)]
    exact Option.map_id'
  memorySize := by
    rw [memorySize, plugin.linearMemory_put fits, LinearMemory.size_put, memorySize]

theorem write_of_fits (plugin : HostedPlugin runtime) {offset : UInt32} {bytes : Bytes}
    (short : bytes.length < UInt32.size)
    (fits : offset.toNat + bytes.length ≤ plugin.memorySize) :
    guest.write offset bytes plugin =
      (.ok (), plugin.setLinearMemory (plugin.linearMemory.put offset.toNat bytes)) := by
  simp only [guest, plugin.linearMemory.write_of_le short fits]

theorem write_of_not_fits (plugin : HostedPlugin runtime) {offset : UInt32} {bytes : Bytes}
    (short : bytes.length < UInt32.size)
    (beyond : ¬ offset.toNat + bytes.length ≤ plugin.memorySize) :
    guest.write offset bytes plugin =
      (.error (.memoryOutOfBounds offset (UInt32.ofNat bytes.length)), plugin) := by
  simp only [guest, plugin.linearMemory.write_of_not_le short beyond]

theorem read_of_fits (plugin : HostedPlugin runtime) {offset length : UInt32}
    (fits : offset.toNat + length.toNat ≤ plugin.memorySize) :
    guest.read offset length plugin =
      (.ok ((List.range length.toNat).map fun i => plugin.byteAt (offset.toNat + i)), plugin) := by
  simp only [guest, plugin.linearMemory.read_of_le fits]
  rfl

theorem read_of_not_fits (plugin : HostedPlugin runtime) {offset length : UInt32}
    (beyond : ¬ offset.toNat + length.toNat ≤ plugin.memorySize) :
    guest.read offset length plugin =
      (.error (.memoryOutOfBounds offset length), plugin) := by
  simp only [guest, plugin.linearMemory.read_of_not_le beyond]

theorem write_ok_iff (plugin : HostedPlugin runtime) {offset : UInt32} {bytes : Bytes}
    (short : bytes.length < UInt32.size) :
    (guest.write offset bytes plugin).1 = .ok () ↔
      offset.toNat + bytes.length ≤ plugin.memorySize := by
  by_cases fits : offset.toNat + bytes.length ≤ plugin.memorySize
  · rw [plugin.write_of_fits short fits]
    exact iff_of_true rfl fits
  · rw [plugin.write_of_not_fits short fits]
    exact iff_of_false nofun fits

theorem read_ok_iff (plugin : HostedPlugin runtime) (offset length : UInt32) :
    (∃ bytes, (guest.read offset length plugin).1 = .ok bytes) ↔
      offset.toNat + length.toNat ≤ plugin.memorySize := by
  by_cases fits : offset.toNat + length.toNat ≤ plugin.memorySize
  · rw [plugin.read_of_fits fits]
    exact iff_of_true ⟨_, rfl⟩ fits
  · rw [plugin.read_of_not_fits fits]
    exact iff_of_false nofun fits

/-- Either a write has put its bytes, or it has failed and changed nothing. -/
theorem write_cases (plugin : HostedPlugin runtime) (offset : UInt32) (bytes : Bytes) :
    (offset.toNat + bytes.length ≤ plugin.memorySize ∧
      guest.write offset bytes plugin =
        (.ok (), plugin.setLinearMemory (plugin.linearMemory.put offset.toNat bytes))) ∨
    ∃ failure, guest.write offset bytes plugin = (.error failure, plugin) := by
  cases written : plugin.linearMemory.write offset bytes with
  | ok memory =>
      obtain ⟨fits, rfl⟩ := LinearMemory.eq_put_of_write written
      exact .inl ⟨fits, by simp only [guest, written]⟩
  | error failure => exact .inr ⟨failure, by simp only [guest, written]⟩

theorem byteAt_put (plugin : HostedPlugin runtime) {start : Nat} {bytes : Bytes}
    (fits : start + bytes.length ≤ plugin.memorySize) (index : Nat) :
    (plugin.setLinearMemory (plugin.linearMemory.put start bytes)).byteAt index =
      if start ≤ index ∧ index < start + bytes.length then bytes.getD (index - start) 0
      else plugin.byteAt index := by
  rw [byteAt, plugin.linearMemory_put fits, LinearMemory.byteAt_put _ _ _ fits]
  rfl

theorem overwritten_put (plugin : HostedPlugin runtime) {offset : UInt32} {bytes : Bytes}
    (fits : offset.toNat + bytes.length ≤ plugin.memorySize) :
    Overwritten offset bytes plugin
      (plugin.setLinearMemory (plugin.linearMemory.put offset.toNat bytes)) where
  inside i h := by
    rw [plugin.byteAt_put fits, if_pos ⟨by omega, by omega⟩, Nat.add_sub_cancel_left]
    exact (List.getElem_eq_getD 0).symm
  outside index apart := by
    rw [plugin.byteAt_put fits, if_neg (by omega)]
  agrees := plugin.agreesBesideBytes_put fits

/-! ## A series of accesses -/

/-- An access of the host to the linear memory. -/
inductive Access where
  | read (offset length : UInt32)
  | write (offset : UInt32) (bytes : Bytes)

/-- An access, with what came of it. -/
def Access.perform : Access → HostedPlugin runtime → Event × HostedPlugin runtime
  | read offset length, plugin =>
    let (outcome, plugin') := guest.read offset length plugin
    (.read offset length outcome, plugin')
  | write offset bytes, plugin =>
    let (outcome, plugin') := guest.write offset bytes plugin
    (.write offset bytes outcome, plugin')

/-- One access after another; the failure of one does not keep the next from being made. -/
def performAll (plugin : HostedPlugin runtime) : List Access → List Event × HostedPlugin runtime
  | [] => ([], plugin)
  | access :: accesses =>
    let (event, plugin') := access.perform plugin
    let (events, plugin'') := performAll plugin' accesses
    (event :: events, plugin'')

/-- The byte that a successful write has put at an index. -/
def written? (index : Nat) : Event → Option UInt8
  | .write offset bytes (.ok ()) =>
    if offset.toNat ≤ index then bytes[index - offset.toNat]? else none
  | _ => none

/-- The byte that the last successful write covering an index has put there. -/
def lastWritten? (events : List Event) (index : Nat) : Option UInt8 :=
  events.reverse.findSome? (written? index)

theorem lastWritten?_cons (event : Event) (events : List Event) (index : Nat) :
    lastWritten? (event :: events) index =
      (lastWritten? events index).or (written? index event) := by
  rw [lastWritten?, List.reverse_cons, List.findSome?_append, List.findSome?_singleton]
  rfl

/-- What one access leaves: every byte as it was, or as the access has written it. -/
theorem byteAt_perform (plugin : HostedPlugin runtime) (access : Access) (index : Nat) :
    (access.perform plugin).2.byteAt index =
      (written? index (access.perform plugin).1).getD (plugin.byteAt index) := by
  cases access with
  | read offset length => rfl
  | write offset bytes =>
      obtain ⟨fits, answered⟩ | ⟨failure, failed⟩ := plugin.write_cases offset bytes
      · simp only [Access.perform, answered, written?, plugin.byteAt_put fits]
        by_cases behind : offset.toNat ≤ index
        · by_cases inside : index - offset.toNat < bytes.length
          · rw [if_pos ⟨behind, by omega⟩, if_pos behind, List.getElem?_eq_getElem inside,
              Option.getD_some]
            exact (List.getElem_eq_getD 0).symm
          · rw [if_neg (by omega), if_pos behind, List.getElem?_eq_none (Nat.not_lt.1 inside),
              Option.getD_none]
        · rw [if_neg (fun h => behind h.1), if_neg behind, Option.getD_none]
      · simp only [Access.perform, failed, written?, Option.getD_none]

theorem memorySize_perform (plugin : HostedPlugin runtime) (access : Access) :
    (access.perform plugin).2.memorySize = plugin.memorySize := by
  cases access with
  | read offset length => rfl
  | write offset bytes =>
      obtain ⟨fits, answered⟩ | ⟨failure, failed⟩ := plugin.write_cases offset bytes
      · simp only [Access.perform, answered]
        exact (plugin.agreesBesideBytes_put fits).memorySize
      · simp only [Access.perform, failed]

/-- What a series of accesses leaves: every byte as it was last written, or as it was. -/
theorem byteAt_performAll (plugin : HostedPlugin runtime) (accesses : List Access) (index : Nat) :
    (plugin.performAll accesses).2.byteAt index =
      (lastWritten? (plugin.performAll accesses).1 index).getD (plugin.byteAt index) := by
  induction accesses generalizing plugin with
  | nil => rfl
  | cons access accesses ih =>
      simp only [performAll, lastWritten?_cons]
      rw [ih, byteAt_perform]
      cases lastWritten? ((access.perform plugin).2.performAll accesses).1 index <;> rfl

theorem memorySize_performAll (plugin : HostedPlugin runtime) (accesses : List Access) :
    (plugin.performAll accesses).2.memorySize = plugin.memorySize := by
  induction accesses generalizing plugin with
  | nil => rfl
  | cons access accesses ih => exact (ih _).trans (plugin.memorySize_perform access)

/-! ## Every access -/

/-- Accesses to the linear memory are exact and happen as a whole or not at all: a write succeeds
exactly when its range ends inside the memory, and then it changes the bytes of that range only; a
read succeeds under the same condition, answers with the bytes that are there and changes nothing;
whatever fails says which range was asked for and changes nothing.  After any series of accesses a
read answers with the bytes last written.  The end of a range is computed without wrapping. -/
theorem accesses_exact (plugin : HostedPlugin runtime) :
    (∀ (offset : UInt32) (bytes : Bytes), bytes.length < UInt32.size →
      ((guest.write offset bytes plugin).1 = .ok () ↔
        offset.toNat + bytes.length ≤ plugin.memorySize) ∧
      (offset.toNat + bytes.length ≤ plugin.memorySize →
        Overwritten offset bytes plugin (guest.write offset bytes plugin).2) ∧
      (plugin.memorySize < offset.toNat + bytes.length →
        guest.write offset bytes plugin =
          (.error (.memoryOutOfBounds offset (UInt32.ofNat bytes.length)), plugin))) ∧
    (∀ offset length : UInt32,
      ((∃ bytes, (guest.read offset length plugin).1 = .ok bytes) ↔
        offset.toNat + length.toNat ≤ plugin.memorySize) ∧
      (offset.toNat + length.toNat ≤ plugin.memorySize →
        guest.read offset length plugin =
          (.ok ((List.range length.toNat).map fun i => plugin.byteAt (offset.toNat + i)),
            plugin)) ∧
      (plugin.memorySize < offset.toNat + length.toNat →
        guest.read offset length plugin =
          (.error (.memoryOutOfBounds offset length), plugin))) ∧
    (∀ (accesses : List Access) (events : List Event) (plugin' : HostedPlugin runtime),
      plugin.performAll accesses = (events, plugin') →
      plugin'.memorySize = plugin.memorySize ∧
      ∀ offset length : UInt32, offset.toNat + length.toNat ≤ plugin.memorySize →
        (guest.read offset length plugin').1 =
          .ok ((List.range length.toNat).map fun i =>
            (lastWritten? events (offset.toNat + i)).getD (plugin.byteAt (offset.toNat + i)))) ∧
    ∀ offset length : UInt32,
      (∃ stop, MemoryRange.stopWord? offset length = some stop ∧
        stop.toNat = offset.toNat + length.toNat) ∧
      (MemoryRange.check plugin.memorySize offset length).map
          (fun range => (range.start, range.stop)) =
        MemoryRange.checkWords plugin.memorySize offset length := by
  refine ⟨fun offset bytes short => ⟨plugin.write_ok_iff short, fun fits => ?_,
      fun beyond => plugin.write_of_not_fits short (Nat.not_le.2 beyond)⟩,
    fun offset length => ⟨plugin.read_ok_iff offset length, plugin.read_of_fits,
      fun beyond => plugin.read_of_not_fits (Nat.not_le.2 beyond)⟩,
    fun accesses events plugin' run => ?_,
    fun offset length => ⟨MemoryRange.exists_stopWord offset length,
      MemoryRange.map_check plugin.memorySize offset length⟩⟩
  · rw [plugin.write_of_fits short fits]
    exact plugin.overwritten_put fits
  · obtain rfl : (plugin.performAll accesses).1 = events := by rw [run]
    obtain rfl : (plugin.performAll accesses).2 = plugin' := by rw [run]
    have same := plugin.memorySize_performAll accesses
    refine ⟨same, fun offset length fits => ?_⟩
    rw [read_of_fits _ (same.symm ▸ fits)]
    simp only [byteAt_performAll]

end HostedPlugin

namespace WasmPlugin

open HostedPlugin (Overwritten)

/-- A plugin with one page of zeros. -/
def onePage : WasmPlugin where
  live := ⟨[⟨.zeros Wasm.pageBytes, none⟩], ⟨{}, [], [], []⟩⟩
  limits := ⟨Wasm.pageBytes⟩
  memory := 0
  functions := []
  info := {}

/-- Two bytes fit at the end of the page, and nothing at all fits behind it; the widest range of all
does not wrap; a write that fails between two that succeed is not read back. -/
theorem onePage_accesses :
    Overwritten 65534 [104, 105] onePage (guest.write 65534 [104, 105] onePage).2 ∧
    (guest.write 65536 [] onePage).1 = .ok () ∧
    guest.read 4294967295 4294967295 onePage =
      (.error (.memoryOutOfBounds 4294967295 4294967295), onePage) ∧
    (guest.read 65533 3 (onePage.performAll
        [.write 65534 [104, 105], .write 65535 [106, 107], .write 65534 [108]]).2).1 =
      .ok [0, 108, 105] := by
  obtain ⟨writes, reads, series, -⟩ := HostedPlugin.accesses_exact onePage
  obtain ⟨-, fitting, -⟩ := writes 65534 [104, 105] (by decide)
  obtain ⟨succeeds, -, -⟩ := writes 65536 [] (by decide)
  obtain ⟨-, -, failing⟩ := reads 4294967295 4294967295
  obtain ⟨-, reading⟩ := series
    [.write 65534 [104, 105], .write 65535 [106, 107], .write 65534 [108]] _ _ rfl
  exact ⟨fitting (by decide), succeeds.2 (by decide), failing (by decide),
    reading 65533 3 (by decide)⟩

end WasmPlugin

end FormatterHost
