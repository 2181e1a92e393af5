import FormatterHost.Wasm.Runtime

/-!
# WebAssembly modules

The part of WebAssembly that the engine knows: functions over numbers, structured control, globals,
one directly used linear memory, imports, exports and data segments.  The parts of a module refer to
each other by indices; imported items come first in each index space.
-/

namespace FormatterHost.Wasm

/-- Comparisons of 32-bit integers, and of one with zero. -/
inductive Comparison where
  | equal
  | notEqual
  | lessSigned
  | lessUnsigned
  | greaterSigned
  | greaterUnsigned
  | lessEqualSigned
  | lessEqualUnsigned
  | greaterEqualSigned
  | greaterEqualUnsigned
deriving Repr, DecidableEq

/-- Operations on two 32-bit integers. -/
inductive Arithmetic where
  | add
  | sub
  | mul
  | and
  | or
  | xor
  | shiftLeft
  | shiftRightUnsigned
deriving Repr, DecidableEq

/-- An instruction.  Branches name the block they leave by counting outward from the innermost. -/
inductive Instruction where
  | unreachable
  | nop
  | drop
  | select
  | leave
  | block (type : FunctionType) (body : List Instruction)
  | loop (type : FunctionType) (body : List Instruction)
  | branchOn (type : FunctionType) (whenTrue whenFalse : List Instruction)
  | branch (depth : Nat)
  | branchIf (depth : Nat)
  | call (index : Nat)
  | getLocal (index : Nat)
  | setLocal (index : Nat)
  | teeLocal (index : Nat)
  | getGlobal (index : Nat)
  | setGlobal (index : Nat)
  | constant (value : Value)
  | isZero
  | compare (comparison : Comparison)
  | compute (operation : Arithmetic)
  /-- Loads a byte from the address on the stack plus an offset. -/
  | loadByte (offset : Nat)
  | storeByte (offset : Nat)
  | memorySize
  | memoryGrow
  | memoryCopy
deriving Repr, Inhabited

/-- A function with its body. -/
structure Function where
  type : FunctionType
  locals : List ValueType
  body : List Instruction
deriving Repr

/-- The type of a global variable. -/
structure GlobalType where
  type : ValueType
  mutable : Bool
deriving Repr, DecidableEq

/-- A global variable with its first value. -/
structure Global where
  type : GlobalType
  initial : Value
deriving Repr

/-- What a module asks its host to provide. -/
inductive ImportedItem where
  | function (type : FunctionType)
  | global (type : GlobalType)
  | memory (limits : Limits)
  | table (limits : Limits)
deriving Repr

/-- An import. -/
structure Imported where
  source : String
  name : String
  item : ImportedItem
deriving Repr

/-- The index spaces of a module. -/
inductive ItemKind where
  | function
  | table
  | memory
  | global
deriving Repr, DecidableEq

/-- An item that a module offers under a name. -/
structure Exported where
  name : String
  kind : ItemKind
  index : Nat
deriving Repr

/-- Bytes that are put into memory when the module is brought to life. -/
structure Segment where
  offset : Value
  bytes : Bytes
deriving Repr

/-- A module. -/
structure Module where
  imports : List Imported := []
  functions : List Function := []
  tables : List Limits := []
  memories : List Limits := []
  globals : List Global := []
  exports : List Exported := []
  start : Option Nat := none
  segments : List Segment := []

namespace Module

/-- The types of the imported functions. -/
def importedFunctions (m : Module) : List FunctionType :=
  m.imports.filterMap fun
    | { item := .function type, .. } => some type
    | _ => none

/-- The types of all functions, by index. -/
def functionTypes (m : Module) : List FunctionType :=
  m.importedFunctions ++ m.functions.map (·.type)

/-- The types of all global variables, by index. -/
def globalTypes (m : Module) : List GlobalType :=
  (m.imports.filterMap fun
    | { item := .global type, .. } => some type
    | _ => none) ++ m.globals.map (·.type)

/-- The limits of all memories, by index. -/
def memoryLimits (m : Module) : List Limits :=
  (m.imports.filterMap fun
    | { item := .memory limits, .. } => some limits
    | _ => none) ++ m.memories

/-- The limits of all tables, by index. -/
def tableLimits (m : Module) : List Limits :=
  (m.imports.filterMap fun
    | { item := .table limits, .. } => some limits
    | _ => none) ++ m.tables

/-- The export of a given name. -/
def export? (m : Module) (name : String) : Option Exported :=
  m.exports.find? (·.name == name)

/-- The index of the exported item of a given kind and name. -/
def exportedIndex? (m : Module) (kind : ItemKind) (name : String) : Option Nat :=
  match m.export? name with
  | some item => if item.kind = kind then some item.index else none
  | none => none

/-- The type of an exported item. -/
def externType (m : Module) (item : Exported) : ExternType :=
  match item.kind with
  | .function => .function (m.functionTypes.getD item.index {})
  | .table => .table
  | .memory => .memory (m.memoryLimits.getD item.index ⟨0, none⟩)
  | .global => .global

/-- The exports with their types. -/
def externs (m : Module) : List (String × ExternType) :=
  m.exports.map fun item => (item.name, m.externType item)

end Module

end FormatterHost.Wasm
