import FormatterHost.Memory.Linear
import FormatterHost.Wasm.Value

/-!
# Runtimes

A runtime compiles modules, brings them to life and calls their functions.  Nothing is said here of
how it does so: what the host does with a plugin is the same on every runtime.  Before a memory or a
table is created, and before one grows, the host is asked through a limiter.
-/

namespace FormatterHost.Wasm

/-! ## Memories -/

/-- The number of bytes in a page. -/
def pageBytes : Nat := 65536

/-- Bounds on a size.  Memories are counted in pages. -/
structure Limits where
  minimum : Nat
  maximum : Option Nat
deriving Repr, DecidableEq

namespace Limits

/-- The size in bytes that a memory begins with. -/
def minimumBytes (limits : Limits) : Nat :=
  limits.minimum * pageBytes

/-- The most bytes that a memory may have by its declaration, if a word of 64 bits has room for that
number; a maximum beyond that is none. -/
def maximumBytes? (limits : Limits) : Option Nat :=
  (limits.maximum.map (· * pageBytes)).filter (· < UInt64.size)

end Limits

/-- A linear memory, and the most bytes that it may have by its declaration. -/
structure MemoryCell where
  memory : LinearMemory
  maximum : Option Nat

namespace MemoryCell

/-- A memory as it is declared. -/
def fresh (limits : Limits) : MemoryCell :=
  ⟨.zeros limits.minimumBytes, limits.maximumBytes?⟩

/-- The memory with more pages. -/
def grow (cell : MemoryCell) (extra : Nat) : MemoryCell :=
  { cell with memory := cell.memory.grow (extra * pageBytes) }

end MemoryCell

/-- What the host is asked for: whether a memory or a table may go from its current size to a
desired one, given the most that it may have by its declaration.  Memories are counted in bytes. -/
structure Limiter where
  memoryGrowing : (current desired : Nat) → (maximum : Option Nat) → Bool
  tableGrowing : (current desired : Nat) → (maximum : Option Nat) → Bool

/-! ## Runtimes -/

/-- What a compiler aims at. -/
inductive CompilerGoal where
  | none
  | speed
  | speedAndSize
deriving Repr, DecidableEq

/-- How modules are to be compiled. -/
structure EngineSettings where
  debugInfo : Bool
  parallelCompilation : Bool
  goal : CompilerGoal
deriving Repr, DecidableEq

/-- The type of an item that a module exports. -/
inductive ExternType where
  | function (type : FunctionType)
  | memory (limits : Limits)
  | global
  | table
  | tag
deriving Repr, DecidableEq

/-- A module that has been brought to life: its memories, and the rest of it. -/
structure Instance (Rest : Type) where
  memories : List MemoryCell
  rest : Rest

/-- What an instance does in a step. -/
inductive Act where
  | work
  /-- The memory at an index is to grow by a number of pages. -/
  | grow (index extra : Nat)
deriving Repr, DecidableEq

/-- What the host has of a runtime. -/
structure Runtime where
  Engine : Type
  Module : Type
  /-- What modules get their imports from. -/
  Linker : Type
  Function : Type
  /-- What an instance consists of besides its memories. -/
  Rest : Type
  createEngine : EngineSettings → Except String Engine
  compile : Engine → Bytes → Except String Module
  /-- The exports of a module, in its order. -/
  exports : Module → List (String × ExternType)
  /-- The memories of a module, by index. -/
  memoryTypes : Module → List Limits
  newLinker : Engine → Linker
  /-- Stands in for the functions that a module imports and nobody provides by some that trap. -/
  stubImports : Linker → Module → Except String Linker
  instantiate : Linker → Limiter → Module → Except String (Instance Rest)
  /-- The index of the memory exported under a name. -/
  memory? : Instance Rest → String → Option Nat
  /-- The function exported under a name. -/
  function? : Instance Rest → String → Option Function
  typeOf : Function → FunctionType
  /-- Calls a function.  The values given as results are no more than places for them. -/
  call : Limiter → Function → (params results : List Value) → Instance Rest →
    Except String (List Value) × Instance Rest
  /-- The steps in which an instance is brought to life and functions are called. -/
  Step : Limiter → Instance Rest → Act → Instance Rest → Prop

end FormatterHost.Wasm
