import Mathlib.Logic.Relation
import FormatterHost.Wasm.Runtime

/-!
# What a host relies on

The host knows a runtime only by what it does for the host.  Three laws say what the host relies on:
that an instance has what its module exports, that calls give values of the types declared, and that
the limiter is asked for every memory before it is created or grows.
-/

namespace FormatterHost.Wasm

/-- The size of a memory, and the most that it may be by its declaration. -/
def MemoryCell.bounds (cell : MemoryCell) : Nat × Option Nat :=
  (cell.memory.size, cell.maximum)

namespace Runtime

/-- The instances that an instance comes to, step by step. -/
def Reaches (runtime : Runtime) (limiter : Limiter) :
    Instance runtime.Rest → Instance runtime.Rest → Prop :=
  Relation.ReflTransGen fun live next => ∃ act, runtime.Step limiter live act next

/-- An instance has exactly the memories and functions that its module exports, under their names
and with their types. -/
structure LinksExports (runtime : Runtime) : Prop where
  memory : ∀ {linker limiter m live}, runtime.instantiate linker limiter m = .ok live →
    ∀ {name limits}, (name, .memory limits) ∈ runtime.exports m →
      ∃ index, runtime.memory? live name = some index
  exported : ∀ {linker limiter m live}, runtime.instantiate linker limiter m = .ok live →
    ∀ {name index}, runtime.memory? live name = some index →
      ∃ limits, (name, .memory limits) ∈ runtime.exports m ∧
        (runtime.memoryTypes m)[index]? = some limits
  function : ∀ {linker limiter m live}, runtime.instantiate linker limiter m = .ok live →
    ∀ {name type}, (name, .function type) ∈ runtime.exports m ↔
      ∃ function, runtime.function? live name = some function ∧ runtime.typeOf function = type

/-- A call that succeeds gives values of the types that the function declares. -/
def ReturnsDeclared (runtime : Runtime) : Prop :=
  ∀ {limiter function params places live values live'},
    runtime.call limiter function params places live = (.ok values, live') →
      values.map Value.type = (runtime.typeOf function).results

/-- Memories are created and grow only with the consent of the limiter, and nothing else changes
their sizes. -/
structure AsksLimiter (runtime : Runtime) : Prop where
  /-- The limiter is asked for each memory of a module before there is one. -/
  create : ∀ {linker limiter m live}, runtime.instantiate linker limiter m = .ok live →
    (∀ limits ∈ runtime.memoryTypes m,
      limiter.memoryGrowing 0 limits.minimumBytes limits.maximumBytes? = true) ∧
    ∃ rest, runtime.Reaches limiter ⟨(runtime.memoryTypes m).map .fresh, rest⟩ live
  /-- A call leaves an instance that steps have led to, whatever comes of it. -/
  call : ∀ {limiter function params places live},
    runtime.Reaches limiter live (runtime.call limiter function params places live).2
  work : ∀ {limiter live next}, runtime.Step limiter live .work next →
    next.memories.map MemoryCell.bounds = live.memories.map MemoryCell.bounds
  /-- A memory grows by what the limiter has agreed to, or nothing happens. -/
  grow : ∀ {limiter live index extra next}, runtime.Step limiter live (.grow index extra) next →
    next.memories = live.memories ∨ ∃ cell, live.memories[index]? = some cell ∧
      limiter.memoryGrowing cell.memory.size (cell.memory.size + extra * pageBytes)
        cell.maximum = true ∧
      next.memories = live.memories.modify index (·.grow extra)

end Runtime

end FormatterHost.Wasm
