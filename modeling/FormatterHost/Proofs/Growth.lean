import FormatterHost.Plugin.Limits
import FormatterHost.Proofs.Runtime

/-!
# Memories that grow

On a runtime that asks the limiter, a step leaves the sizes of all memories as they are, or one
memory grows and the host has agreed to its new size.  So along every run memories never shrink, and
none of them gets larger than its own declaration and the host allow.
-/

namespace FormatterHost

namespace Wasm

variable {limits : StoreLimits}

namespace MemoryCell

variable {cell cell' cell'' : MemoryCell}

/-- A memory is no larger than the host grants and its declaration allows. -/
structure Obeys (cell : MemoryCell) (limits : StoreLimits) : Prop where
  granted : cell.memory.size ≤ limits.maxMemoryBytes
  declared : ∀ most, cell.maximum = some most → cell.memory.size ≤ most

/-- A memory that may have come of another one: it is not smaller, and within the same limits. -/
structure Follows (limits : StoreLimits) (cell cell' : MemoryCell) : Prop where
  maximum : cell'.maximum = cell.maximum
  grows : cell.memory.size ≤ cell'.memory.size
  obeys : cell.Obeys limits → cell'.Obeys limits

theorem Follows.refl (cell : MemoryCell) : Follows limits cell cell :=
  ⟨rfl, Nat.le_refl _, fun obeys => obeys⟩

theorem Follows.trans (first : Follows limits cell cell') (second : Follows limits cell' cell'') :
    Follows limits cell cell'' :=
  ⟨second.maximum.trans first.maximum, Nat.le_trans first.grows second.grows,
    fun obeys => second.obeys (first.obeys obeys)⟩

/-- Only the content is another one. -/
theorem follows_of_bounds_eq (same : cell'.bounds = cell.bounds) : Follows limits cell cell' := by
  obtain ⟨size, maximum⟩ := Prod.mk.inj same
  exact ⟨maximum, Nat.le_of_eq size.symm,
    fun obeys => ⟨size ▸ obeys.granted, by rw [maximum, size]; exact obeys.declared⟩⟩

/-- The host has agreed to the new size. -/
theorem follows_grow {extra : Nat} (agreed : limits.memoryGrowing cell.memory.size
      (cell.memory.size + extra * pageBytes) cell.maximum = true) :
    Follows limits cell (cell.grow extra) := by
  obtain ⟨granted, declared⟩ := StoreLimits.memoryGrowing_iff.1 agreed
  exact ⟨rfl, Nat.le_add_right _ _, fun _ => ⟨granted, declared⟩⟩

end MemoryCell

namespace Instance

variable {Rest : Type} {live live' live'' : Instance Rest}

/-- An instance that may have come of another one: every memory has come of the one that was in its
place. -/
structure Follows (limits : StoreLimits) (live live' : Instance Rest) : Prop where
  cells : ∀ {index : Nat} {cell : MemoryCell}, live.memories[index]? = some cell →
    ∃ cell', live'.memories[index]? = some cell' ∧ MemoryCell.Follows limits cell cell'

theorem Follows.of_memories_eq (same : live'.memories = live.memories) :
    live.Follows limits live' :=
  ⟨fun {_ cell} found => ⟨cell, by rw [same, found], .refl cell⟩⟩

theorem Follows.refl (live : Instance Rest) : live.Follows limits live :=
  .of_memories_eq rfl

theorem Follows.trans (first : live.Follows limits live') (second : live'.Follows limits live'') :
    live.Follows limits live'' := by
  refine ⟨fun found => ?_⟩
  obtain ⟨cell', found', follows⟩ := first.cells found
  obtain ⟨cell'', found'', follows'⟩ := second.cells found'
  exact ⟨cell'', found'', follows.trans follows'⟩

/-- No memory has other bounds. -/
theorem Follows.of_bounds_eq
    (same : live'.memories.map MemoryCell.bounds = live.memories.map MemoryCell.bounds) :
    live.Follows limits live' := by
  refine ⟨fun {index cell} found => ?_⟩
  have bounds : (live'.memories.map MemoryCell.bounds)[index]? = some cell.bounds := by
    rw [same, List.getElem?_map, found]
    rfl
  rw [List.getElem?_map, Option.map_eq_some_iff] at bounds
  obtain ⟨cell', found', same'⟩ := bounds
  exact ⟨cell', found', MemoryCell.follows_of_bounds_eq same'⟩

/-- One memory is replaced by one that has come of it. -/
theorem Follows.modify {index : Nat} {f : MemoryCell → MemoryCell}
    (same : live'.memories = live.memories.modify index f)
    (follows : ∀ cell, live.memories[index]? = some cell →
      MemoryCell.Follows limits cell (f cell)) :
    live.Follows limits live' := by
  refine ⟨fun {other cell} found => ?_⟩
  rw [same]
  by_cases here : index = other
  · subst here
    exact ⟨f cell, by simp [found], follows cell found⟩
  · exact ⟨cell, by simp [here, found], .refl cell⟩

/-- There is a memory for every declaration, within its limits. -/
structure Keeps (limits : StoreLimits) (declared : List Limits) (live : Instance Rest) : Prop where
  cells : ∀ {index : Nat} {own : Limits}, declared[index]? = some own →
    ∃ cell, live.memories[index]? = some cell ∧ cell.maximum = own.maximumBytes? ∧
      cell.Obeys limits

theorem Keeps.of_follows {declared : List Limits} (keeps : live.Keeps limits declared)
    (follows : live.Follows limits live') : live'.Keeps limits declared := by
  refine ⟨fun stated => ?_⟩
  obtain ⟨cell, found, maximum, obeys⟩ := keeps.cells stated
  obtain ⟨cell', found', follows'⟩ := follows.cells found
  exact ⟨cell', found', follows'.maximum.trans maximum, follows'.obeys obeys⟩

end Instance

namespace Runtime

variable {runtime : Runtime}

/-- Every step has its instance come of the one before. -/
theorem AsksLimiter.step_follows (asks : runtime.AsksLimiter) {live next : Instance runtime.Rest}
    {act : Act} (stepped : runtime.Step limits.limiter live act next) :
    live.Follows limits next := by
  cases act with
  | work => exact .of_bounds_eq (asks.work stepped)
  | grow index extra =>
      obtain same | ⟨cell, found, agreed, same⟩ := asks.grow stepped
      · exact .of_memories_eq same
      · refine .modify same fun other found' => ?_
        cases found.symm.trans found'
        exact MemoryCell.follows_grow agreed

/-- However many steps there are. -/
theorem AsksLimiter.follows (asks : runtime.AsksLimiter) {live live' : Instance runtime.Rest}
    (reaches : runtime.Reaches limits.limiter live live') : live.Follows limits live' := by
  induction reaches with
  | refl => exact .refl live
  | tail _ stepped ih =>
      obtain ⟨act, stepped⟩ := stepped
      exact ih.trans (asks.step_follows stepped)

/-- What is brought to life has all its memories within their limits. -/
theorem AsksLimiter.keeps (asks : runtime.AsksLimiter) {linker : runtime.Linker}
    {m : runtime.Module} {live : Instance runtime.Rest}
    (instantiates : runtime.instantiate linker limits.limiter m = .ok live) :
    live.Keeps limits (runtime.memoryTypes m) := by
  obtain ⟨agreed, rest, reaches⟩ := asks.create instantiates
  refine Instance.Keeps.of_follows ⟨fun {index own} stated => ?_⟩ (asks.follows reaches)
  have consent : limits.memoryGrowing 0 own.minimumBytes own.maximumBytes? = true :=
    agreed own (List.mem_of_getElem? stated)
  obtain ⟨granted, declared⟩ := StoreLimits.memoryGrowing_iff.1 consent
  exact ⟨.fresh own, by rw [List.getElem?_map, stated]; rfl, rfl, granted, declared⟩

/-- Growth that the limiter would not agree to does not happen. -/
theorem AsksLimiter.memories_eq_of_refused (asks : runtime.AsksLimiter)
    {live next : Instance runtime.Rest} {index extra : Nat}
    (stepped : runtime.Step limits.limiter live (.grow index extra) next)
    (refused : ∀ cell, live.memories[index]? = some cell →
      limits.memoryGrowing cell.memory.size (cell.memory.size + extra * pageBytes)
        cell.maximum = false) : next.memories = live.memories := by
  obtain same | ⟨cell, found, agreed, -⟩ := asks.grow stepped
  · exact same
  · cases (refused cell found).symm.trans agreed

end Runtime

end Wasm

end FormatterHost
