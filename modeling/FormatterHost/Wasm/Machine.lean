import FormatterHost.Wasm.Validity

/-!
# Running functions

A machine carries out one instruction after another.  A call opens an activation with its own locals
and operands; a block inside it keeps the operands below it and the code to go on with.  A run ends
with the results of the outermost call, or with a trap, and leaves the store as it was at that
moment.
-/

namespace FormatterHost.Wasm

/-- The bits of a 32-bit integer; other numbers, which no valid module has in its place, count as
zero. -/
def Value.word : Value → UInt32
  | .i32 bits => bits
  | _ => 0

/-- The number of a truth value. -/
def Value.ofBool (condition : Bool) : Value :=
  .i32 (if condition then 1 else 0)

/-- Whether a comparison holds. -/
def Comparison.holds (comparison : Comparison) (left right : UInt32) : Bool :=
  match comparison with
  | equal => left == right
  | notEqual => left != right
  | lessSigned => left.toInt32 < right.toInt32
  | lessUnsigned => left < right
  | greaterSigned => right.toInt32 < left.toInt32
  | greaterUnsigned => right < left
  | lessEqualSigned => left.toInt32 ≤ right.toInt32
  | lessEqualUnsigned => left ≤ right
  | greaterEqualSigned => right.toInt32 ≤ left.toInt32
  | greaterEqualUnsigned => right ≤ left

/-- The result of an operation; all of them wrap around, and shifts count modulo 32. -/
def Arithmetic.result (operation : Arithmetic) (left right : UInt32) : UInt32 :=
  match operation with
  | add => left + right
  | sub => left - right
  | mul => left * right
  | and => left &&& right
  | or => left ||| right
  | xor => left ^^^ right
  | shiftLeft => left <<< right
  | shiftRightUnsigned => left >>> right

/-- What instructions work on. -/
structure Store where
  memories : List MemoryCell
  globals : List Value

namespace Store

/-- The memory that instructions work on. -/
def memory (store : Store) : LinearMemory :=
  match store.memories with
  | cell :: _ => cell.memory
  | [] => .zeros 0

/-- The store with another content of the memory that instructions work on. -/
def setMemory (store : Store) (memory : LinearMemory) : Store :=
  match store.memories with
  | cell :: cells => { store with memories := { cell with memory } :: cells }
  | [] => store

end Store

namespace MemoryCell

/-- The number of pages. -/
def pages (cell : MemoryCell) : Nat :=
  cell.memory.size / pageBytes

/-- The memory with more pages, if the host agrees, its declaration allows for them and they can be
addressed. -/
def grow? (cell : MemoryCell) (limiter : Limiter) (extra : Nat) : Option MemoryCell :=
  let desired := cell.memory.size + extra * pageBytes
  if limiter.memoryGrowing cell.memory.size desired cell.maximum &&
      cell.maximum.all (desired ≤ ·) && desired ≤ maxPages * pageBytes then
    some (cell.grow extra)
  else none

end MemoryCell

namespace Store

/-- Grows the memory; the result is the number of pages before, or all ones where it does not grow.
-/
def growMemory (limiter : Limiter) (store : Store) (extra : UInt32) : UInt32 × Store :=
  match store.memories with
  | cell :: cells =>
    match cell.grow? limiter extra.toNat with
    | some grown => (UInt32.ofNat cell.pages, { store with memories := grown :: cells })
    | none => (0 - 1, store)
  | [] => (0 - 1, store)

/-- The number of pages. -/
def memoryPages (store : Store) : UInt32 :=
  UInt32.ofNat (store.memory.size / pageBytes)

/-- Puts bytes into memory, if they fit. -/
def putBytes? (store : Store) (start : Nat) (bytes : Bytes) : Option Store :=
  if start + bytes.length ≤ store.memory.size then
    some (store.setMemory (store.memory.put start bytes))
  else none

/-- Copies a range within memory, if both ends fit. -/
def copyBytes? (store : Store) (target source count : Nat) : Option Store :=
  if source + count ≤ store.memory.size then
    store.putBytes? target (store.memory.slice source count)
  else none

end Store

/-- A block that has been entered. -/
structure Label where
  /-- The number of operands that a branch to the block takes along. -/
  arity : Nat
  /-- The code that a branch to the block goes on with. -/
  target : List Instruction
  /-- The code behind the block. -/
  after : List Instruction
  /-- The operands below the block. -/
  below : List Value

/-- A function call under way. -/
structure Activation where
  code : List Instruction
  operands : List Value
  locals : List Value
  labels : List Label
  /-- The number of results. -/
  arity : Nat

/-- The ways in which a step can end. -/
inductive StepResult where
  | running (store : Store) (activations : List Activation)
  | finished (store : Store) (results : List Value)
  | trapped (store : Store)

/-- A function as the machine sees it: one with a body, or an import that nobody provides. -/
inductive Callable where
  | defined (function : Function)
  | missing (type : FunctionType)

/-- The most calls that can be open at a time. -/
def maxDepth : Nat := 10000

namespace Activation

/-- The activation of a function, given its arguments. -/
def ofCall (function : Function) (arguments : List Value) : Activation where
  code := function.body
  operands := []
  locals := arguments ++ function.locals.map ValueType.zero
  labels := []
  arity := function.type.results.length

/-- Goes on with `code` and `operands`. -/
def proceed (activation : Activation) (code : List Instruction) (operands : List Value) :
    Activation :=
  { activation with code, operands }

/-- Enters a block. -/
def enter (activation : Activation) (type : FunctionType) (arity : Nat)
    (body target after : List Instruction) (operands : List Value) : Activation :=
  let label : Label :=
    { arity, target, after, below := operands.drop type.params.length }
  { activation with
    code := body, operands := operands.take type.params.length,
    labels := label :: activation.labels }

/-- Ends an activation with the operands at hand: its results are those of the run, or operands of
the caller. -/
def finish (activation : Activation) (store : Store) (operands : List Value) :
    List Activation → StepResult
  | [] => .finished store (operands.take activation.arity)
  | caller :: callers =>
    .running store
      ({ caller with operands := operands.take activation.arity ++ caller.operands } :: callers)

/-- Branches out of `depth` blocks, and of one more. -/
def branch (activation : Activation) (store : Store) (operands : List Value) (depth : Nat)
    (callers : List Activation) : StepResult :=
  match activation.labels.drop depth with
  | label :: labels =>
    .running store
      ({ activation with
          code := label.target, operands := operands.take label.arity ++ label.below, labels }
        :: callers)
  | [] => activation.finish store operands callers

end Activation

/-- Calls a function from an activation that has `operands` and goes on with `code`. -/
def callFunction (functions : List Callable) (store : Store) (activation : Activation)
    (code : List Instruction) (operands : List Value) (index : Nat) (callers : List Activation) :
    StepResult :=
  match functions[index]? with
  | some (.defined function) =>
    if maxDepth ≤ callers.length then .trapped store
    else
      let count := function.type.params.length
      .running store
        (.ofCall function (operands.take count).reverse ::
          activation.proceed code (operands.drop count) :: callers)
  | _ => .trapped store

/-- Carries out the next instruction of the topmost activation.  Operands that are not there, which
a valid module never needs, end the run in a trap. -/
def step (limiter : Limiter) (functions : List Callable) (store : Store) (activation : Activation)
    (callers : List Activation) : StepResult :=
  match activation.code with
  | [] =>
    match activation.labels with
    | label :: labels =>
      .running store
        ({ activation with
            code := label.after, operands := activation.operands ++ label.below, labels }
          :: callers)
    | [] => activation.finish store activation.operands callers
  | instruction :: code =>
    let next (operands : List Value) : StepResult :=
      .running store (activation.proceed code operands :: callers)
    let nextWith (store : Store) (operands : List Value) : StepResult :=
      .running store (activation.proceed code operands :: callers)
    let effect (outcome : Option Store) (operands : List Value) : StepResult :=
      match outcome with
      | some store => nextWith store operands
      | none => .trapped store
    match instruction, activation.operands with
    | .unreachable, _ => .trapped store
    | .nop, operands => next operands
    | .drop, _ :: operands => next operands
    | .select, condition :: second :: first :: operands =>
      next ((if condition.word ≠ 0 then first else second) :: operands)
    | .leave, operands => activation.finish store operands callers
    | .block type body, operands =>
      .running store (activation.enter type type.results.length body code code operands :: callers)
    | .loop type body, operands =>
      .running store
        (activation.enter type type.params.length body (.loop type body :: code) code operands
          :: callers)
    | .branchOn type whenTrue whenFalse, condition :: operands =>
      let body := if condition.word ≠ 0 then whenTrue else whenFalse
      .running store (activation.enter type type.results.length body code code operands :: callers)
    | .branch depth, operands => activation.branch store operands depth callers
    | .branchIf depth, condition :: operands =>
      if condition.word ≠ 0 then activation.branch store operands depth callers
      else next operands
    | .call index, operands =>
      callFunction functions store activation code operands index callers
    | .getLocal index, operands => next (activation.locals.getD index (.i32 0) :: operands)
    | .setLocal index, value :: operands =>
      .running store
        ({ activation with code, operands, locals := activation.locals.set index value } :: callers)
    | .teeLocal index, value :: operands =>
      .running store
        ({ activation with
            code, operands := value :: operands, locals := activation.locals.set index value }
          :: callers)
    | .getGlobal index, operands => next (store.globals.getD index (.i32 0) :: operands)
    | .setGlobal index, value :: operands =>
      nextWith { store with globals := store.globals.set index value } operands
    | .constant value, operands => next (value :: operands)
    | .isZero, value :: operands => next (.ofBool (value.word == 0) :: operands)
    | .compare comparison, right :: left :: operands =>
      next (.ofBool (comparison.holds left.word right.word) :: operands)
    | .compute operation, right :: left :: operands =>
      next (.i32 (operation.result left.word right.word) :: operands)
    | .loadByte offset, address :: operands =>
      let address := address.word.toNat + offset
      if address < store.memory.size then
        next (.i32 (store.memory.byteAt address).toUInt32 :: operands)
      else .trapped store
    | .storeByte offset, value :: address :: operands =>
      effect (store.putBytes? (address.word.toNat + offset) [value.word.toUInt8]) operands
    | .memorySize, operands => next (.i32 store.memoryPages :: operands)
    | .memoryGrow, extra :: operands =>
      let (result, store) := store.growMemory limiter extra.word
      nextWith store (.i32 result :: operands)
    | .memoryCopy, count :: source :: target :: operands =>
      effect (store.copyBytes? target.word.toNat source.word.toNat count.word.toNat) operands
    | _, _ => .trapped store

/-- How a run ends. -/
inductive RunResult where
  | finished (results : List Value)
  | trapped
  /-- The run has taken more steps than it was given. -/
  | exhausted

/-- Runs a machine for a number of steps. -/
def run (limiter : Limiter) (functions : List Callable) :
    Nat → Store → List Activation → RunResult × Store
  | 0, store, _ => (.exhausted, store)
  | _ + 1, store, [] => (.finished [], store)
  | fuel + 1, store, activation :: callers =>
    match step limiter functions store activation callers with
    | .running store activations => run limiter functions fuel store activations
    | .finished store results => (.finished results, store)
    | .trapped store => (.trapped, store)

/-- The number of steps after which a run is given up. -/
def maxSteps : Nat := 1000000000000

/-- Calls a function with arguments of the right number. -/
def invoke (limiter : Limiter) (functions : List Callable) (store : Store) (index : Nat)
    (arguments : List Value) : RunResult × Store :=
  match functions[index]? with
  | some (.defined function) =>
    run limiter functions maxSteps store [.ofCall function arguments]
  | _ => (.trapped, store)

end FormatterHost.Wasm
