import FormatterHost.Wasm.Machine

/-!
# Instances of modules

A module is brought to life by providing its imports, creating its memories and tables, giving its
globals their first values, putting its data into memory and calling its start function.  Imported
functions that nobody provides can stand in as stubs that trap; other imports have no stand-in.
-/

namespace FormatterHost.Wasm

/-- What an instance of the engine consists of besides its memories. -/
structure Machine where
  source : Module
  functions : List Callable
  globals : List Value
  /-- The calls under way, the innermost first. -/
  activations : List Activation

/-- Why a module cannot be brought to life. -/
inductive InstantiationFault where
  | unknownImport (source name : String)
  | memoryTooLarge
  | tableTooLarge
  | dataOutOfBounds
  | startTrapped
deriving Repr

/-- The wording of such a fault. -/
def InstantiationFault.message : InstantiationFault → String
  | unknownImport source name =>
    "unknown import: `" ++ source ++ "::" ++ name ++ "` has not been defined"
  | memoryTooLarge => "memory minimum size exceeds memory limits"
  | tableTooLarge => "table minimum size exceeds table limits"
  | dataOutOfBounds => "data segment out of bounds"
  | startTrapped => "start function trapped"

/-- The first import that has no stand-in. -/
def Module.unmetImport? (m : Module) (stubs : Bool) : Option Imported :=
  m.imports.find? fun imported =>
    match imported.item with
    | .function _ => !stubs
    | _ => true

/-- Creates a memory of its least size, if the host agrees. -/
def createMemory (limiter : Limiter) (limits : Limits) : Option MemoryCell :=
  if limiter.memoryGrowing 0 limits.minimumBytes limits.maximumBytes? then some (.fresh limits)
  else none

/-- Whether the host agrees to a table of its least size. -/
def admitsTable (limiter : Limiter) (limits : Limits) : Bool :=
  limiter.tableGrowing 0 limits.minimum limits.maximum

/-- Puts the data of a module into memory. -/
def placeSegments (store : Store) : List Segment → Option Store
  | [] => some store
  | segment :: segments =>
    match store.putBytes? segment.offset.word.toNat segment.bytes with
    | some store => placeSegments store segments
    | none => none

/-- The functions of a module, by index. -/
def Module.callables (m : Module) : List Callable :=
  m.importedFunctions.map .missing ++ m.functions.map .defined

namespace Instance

/-- What the instructions of an instance work on. -/
def store (live : Instance Machine) : Store :=
  ⟨live.memories, live.rest.globals⟩

/-- The instance with another store and other calls under way. -/
def withStore (live : Instance Machine) (store : Store) (activations : List Activation) :
    Instance Machine :=
  ⟨store.memories, { live.rest with globals := store.globals, activations }⟩

/-- An instance of a module at rest. -/
def ofStore (m : Module) (store : Store) : Instance Machine :=
  ⟨store.memories, ⟨m, m.callables, store.globals, []⟩⟩

/-- Brings a module to life. -/
def create (m : Module) (stubs : Bool) (limiter : Limiter) :
    Except InstantiationFault (Instance Machine) :=
  match m.unmetImport? stubs with
  | some imported => .error (.unknownImport imported.source imported.name)
  | none =>
    match m.memories.mapM (createMemory limiter) with
    | none => .error .memoryTooLarge
    | some memories =>
      if m.tables.all (admitsTable limiter) then
        match placeSegments ⟨memories, m.globals.map (·.initial)⟩ m.segments with
        | none => .error .dataOutOfBounds
        | some store =>
          match m.start with
          | none => .ok (ofStore m store)
          | some index =>
            match invoke limiter m.callables store index [] with
            | (.finished _, store) => .ok (ofStore m store)
            | _ => .error .startTrapped
      else .error .tableTooLarge

end Instance

end FormatterHost.Wasm
