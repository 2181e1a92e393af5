import FormatterHost.Wasm.Compile
import FormatterHost.Wasm.Instance

/-!
# The engine

A runtime for the part of WebAssembly that is read here.  A call is checked against the type of the
function, and then the machine runs until it is done, is trapped or has used up its steps.
-/

namespace FormatterHost.Wasm

/-- A function of an instance, with its type. -/
structure FunctionHandle where
  index : Nat
  type : FunctionType

/-- Whether functions that a module imports are to be stubs. -/
structure StubLinker where
  stubs : Bool

namespace FunctionType

/-- Why a function is not called: the arguments are not those that it takes, or there are not as
many places as it has results. -/
def refusal? (type : FunctionType) (params results : List Value) : Option String :=
  if params.length ≠ type.params.length then
    some s!"expected {type.params.length} arguments, got {params.length}"
  else if params.map Value.type ≠ type.params then some "argument type mismatch"
  else if results.length ≠ type.results.length then
    some s!"expected {type.results.length} results, got {results.length}"
  else none

/-- What a run comes to as a call.  Results of other types, which no function of a valid module has,
count as a trap. -/
def outcome (type : FunctionType) : RunResult → Except String (List Value)
  | .finished results =>
    if results.map Value.type = type.results then .ok results else .error "wasm trap"
  | .trapped => .error "wasm trap"
  | .exhausted => .error "all steps used up"

end FunctionType

/-- What the next step of an activation does. -/
def Activation.act (activation : Activation) : Act :=
  match activation.code, activation.operands with
  | .memoryGrow :: _, extra :: _ => .grow 0 extra.word.toNat
  | _, _ => .work

namespace Instance

/-- The function that an instance exports under a name. -/
def function? (live : Instance Machine) (name : String) : Option FunctionHandle :=
  (live.rest.source.exportedIndex? .function name).map fun index =>
    ⟨index, live.rest.source.functionTypes.getD index {}⟩

/-- Calls a function. -/
def call (limiter : Limiter) (function : FunctionHandle) (params results : List Value)
    (live : Instance Machine) : Except String (List Value) × Instance Machine :=
  match function.type.refusal? params results with
  | some refusal => (.error refusal, live)
  | none =>
    let (result, store) := invoke limiter live.rest.functions live.store function.index params
    (function.type.outcome result, live.withStore store [])

/-- The instance after a step of its machine. -/
def after (live : Instance Machine) : StepResult → Instance Machine
  | .running store activations => live.withStore store activations
  | .finished store _ => live.withStore store []
  | .trapped store => live.withStore store []

/-- The steps of an instance. -/
inductive Step (limiter : Limiter) (live : Instance Machine) : Act → Instance Machine → Prop where
  /-- Data of the module is put into memory. -/
  | place {segment : Segment} {store : Store} (idle : live.rest.activations = [])
      (mem : segment ∈ live.rest.source.segments)
      (placed : live.store.putBytes? segment.offset.word.toNat segment.bytes = some store) :
      Step limiter live .work (live.withStore store [])
  /-- A function is called. -/
  | enter (function : Function) (arguments : List Value) (idle : live.rest.activations = []) :
      Step limiter live .work (live.withStore live.store [.ofCall function arguments])
  /-- The machine carries out an instruction. -/
  | next {activation : Activation} {callers : List Activation}
      (top : live.rest.activations = activation :: callers) :
      Step limiter live activation.act
        (live.after (step limiter live.rest.functions live.store activation callers))
  /-- The calls under way are given up. -/
  | abandon : Step limiter live .work (live.withStore live.store [])

end Instance

/-- The engine as a runtime. -/
def engine : Runtime where
  Engine := EngineSettings
  Module := ValidModule
  Linker := StubLinker
  Function := FunctionHandle
  Rest := Machine
  createEngine := .ok
  compile _ bytes := (Module.compile bytes).mapError CompilationFault.message
  exports m := m.1.externs
  memoryTypes m := m.1.memoryLimits
  newLinker _ := ⟨false⟩
  stubImports _ _ := .ok ⟨true⟩
  instantiate linker limiter m :=
    (Instance.create m.1 linker.stubs limiter).mapError InstantiationFault.message
  memory? live := live.rest.source.exportedIndex? .memory
  function? := Instance.function?
  typeOf := FunctionHandle.type
  call := Instance.call
  Step := Instance.Step

end FormatterHost.Wasm
