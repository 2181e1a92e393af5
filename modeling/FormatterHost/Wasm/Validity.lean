import FormatterHost.Number.Width
import FormatterHost.Wasm.Module

/-!
# Validity of modules

A valid module refers to existing items only, its exports have distinct names, and every function
body is typed: each instruction finds the operands it takes, and the body leaves exactly the
results.  Behind an instruction that never completes any operands may be assumed.
-/

namespace FormatterHost.Wasm

/-- The most pages that a memory can have. -/
def maxPages : Nat := 65536

/-- What is known of the operands at a point of a body, the uppermost first. -/
structure Operands where
  known : List ValueType
  /-- Whether any operands may be assumed below those known. -/
  unbounded : Bool

namespace Operands

/-- No operands at all. -/
def empty : Operands :=
  ⟨[], false⟩

/-- The operands behind an instruction that never completes. -/
def arbitrary : Operands :=
  ⟨[], true⟩

/-- Takes an operand of any type; the type is none if it may be any. -/
def popAny? (operands : Operands) : Option (Option ValueType × Operands) :=
  match operands.known with
  | type :: known => some (some type, { operands with known })
  | [] => if operands.unbounded then some (none, operands) else none

/-- Takes an operand of a given type. -/
def pop? (operands : Operands) (type : ValueType) : Option Operands :=
  match operands.popAny? with
  | some (some found, rest) => if found = type then some rest else none
  | some (none, rest) => some rest
  | none => none

/-- Takes operands, the last of the types being uppermost. -/
def popAll? (operands : Operands) (types : List ValueType) : Option Operands :=
  types.reverse.foldlM pop? operands

/-- Adds an operand. -/
def push (operands : Operands) (type : ValueType) : Operands :=
  { operands with known := type :: operands.known }

/-- Adds operands, the last of the types being uppermost. -/
def pushAll (operands : Operands) (types : List ValueType) : Operands :=
  types.foldl push operands

/-- Takes and adds operands. -/
def consume? (operands : Operands) (type : FunctionType) : Option Operands :=
  (operands.popAll? type.params).map (·.pushAll type.results)

end Operands

/-- What a body may refer to. -/
structure Scope where
  functions : List FunctionType
  globals : List GlobalType
  memories : Nat
  locals : List ValueType
  results : List ValueType
  /-- The operands that a branch to each enclosing block takes, the innermost first. -/
  labels : List (List ValueType)

namespace Scope

/-- The operands that a branch takes.  The outermost block is the body itself. -/
def label? (scope : Scope) (depth : Nat) : Option (List ValueType) :=
  (scope.labels ++ [scope.results])[depth]?

/-- The scope inside a block. -/
def enter (scope : Scope) (label : List ValueType) : Scope :=
  { scope with labels := label :: scope.labels }

end Scope

mutual

/-- The operands after an instruction, if it is well typed. -/
def checkInstruction (scope : Scope) (operands : Operands) : Instruction → Option Operands
  | .unreachable => some .arbitrary
  | .nop => some operands
  | .drop => operands.popAny?.map (·.2)
  | .select => do
    let operands ← operands.pop? .i32
    let (first, operands) ← operands.popAny?
    let (second, operands) ← operands.popAny?
    match first, second with
    | some first, some second => if first = second then some (operands.push first) else none
    | some type, none => some (operands.push type)
    | none, some type => some (operands.push type)
    | none, none => some operands
  | .leave => do
    let _ ← operands.popAll? scope.results
    return .arbitrary
  | .block type body => do
    let outer ← operands.popAll? type.params
    checkBody (scope.enter type.results) type body
    return outer.pushAll type.results
  | .loop type body => do
    let outer ← operands.popAll? type.params
    checkBody (scope.enter type.params) type body
    return outer.pushAll type.results
  | .branchOn type whenTrue whenFalse => do
    let operands ← operands.pop? .i32
    let outer ← operands.popAll? type.params
    checkBody (scope.enter type.results) type whenTrue
    checkBody (scope.enter type.results) type whenFalse
    return outer.pushAll type.results
  | .branch depth => do
    let _ ← operands.popAll? (← scope.label? depth)
    return .arbitrary
  | .branchIf depth => do
    let label ← scope.label? depth
    (← operands.pop? .i32).consume? ⟨label, label⟩
  | .call index => do operands.consume? (← scope.functions[index]?)
  | .getLocal index => do return operands.push (← scope.locals[index]?)
  | .setLocal index => do operands.pop? (← scope.locals[index]?)
  | .teeLocal index => do
    let type ← scope.locals[index]?
    return (← operands.pop? type).push type
  | .getGlobal index => do return operands.push (← scope.globals[index]?).type
  | .setGlobal index => do
    let type ← scope.globals[index]?
    if type.mutable then operands.pop? type.type else none
  | .constant value => some (operands.push value.type)
  | .isZero => operands.consume? ⟨[.i32], [.i32]⟩
  | .compare _ => operands.consume? ⟨[.i32, .i32], [.i32]⟩
  | .compute _ => operands.consume? ⟨[.i32, .i32], [.i32]⟩
  | .loadByte _ => if 0 < scope.memories then operands.consume? ⟨[.i32], [.i32]⟩ else none
  | .storeByte _ => if 0 < scope.memories then operands.consume? ⟨[.i32, .i32], []⟩ else none
  | .memorySize => if 0 < scope.memories then some (operands.push .i32) else none
  | .memoryGrow => if 0 < scope.memories then operands.consume? ⟨[.i32], [.i32]⟩ else none
  | .memoryCopy =>
    if 0 < scope.memories then operands.consume? ⟨[.i32, .i32, .i32], []⟩ else none

/-- The operands after a row of instructions, if they are well typed. -/
def checkRow (scope : Scope) (operands : Operands) : List Instruction → Option Operands
  | [] => some operands
  | instruction :: rest =>
    match checkInstruction scope operands instruction with
    | some operands => checkRow scope operands rest
    | none => none

/-- Whether a block takes and leaves what its type says. -/
def checkBody (scope : Scope) (type : FunctionType) (body : List Instruction) : Option Unit :=
  match checkRow scope (Operands.empty.pushAll type.params) body with
  | some operands =>
    match operands.popAll? type.results with
    | some rest => if rest.known = [] then some () else none
    | none => none
  | none => none

end

namespace Limits

/-- Whether bounds are in order and within a ceiling. -/
def isValid (limits : Limits) (ceiling : Nat) : Bool :=
  limits.minimum ≤ ceiling &&
    limits.maximum.all fun maximum => limits.minimum ≤ maximum && maximum ≤ ceiling

end Limits

namespace Module

/-- Whether a function body is well typed. -/
def isFunctionValid (m : Module) (function : Function) : Bool :=
  let scope : Scope :=
    { functions := m.functionTypes, globals := m.globalTypes, memories := m.memoryLimits.length,
      locals := function.type.params ++ function.locals, results := function.type.results,
      labels := [] }
  (checkBody scope ⟨[], function.type.results⟩ function.body).isSome

/-- Whether an export refers to an item that exists. -/
def isExportValid (m : Module) (item : Exported) : Bool :=
  match item.kind with
  | .function => item.index < m.functionTypes.length
  | .table => item.index < m.tableLimits.length
  | .memory => item.index < m.memoryLimits.length
  | .global => item.index < m.globalTypes.length

/-- Whether the start function exists and neither takes nor leaves anything. -/
def isStartValid (m : Module) : Bool :=
  m.start.all fun index => m.functionTypes[index]? = some {}

/-- Whether the names of the exports are distinct. -/
def hasDistinctExports (m : Module) : Bool :=
  decide (m.exports.map (·.name)).Nodup

/-- Whether a module is valid. -/
def isValid (m : Module) : Bool :=
  m.functions.all m.isFunctionValid &&
  m.globals.all (fun global => global.initial.type = global.type.type) &&
  m.memoryLimits.all (·.isValid maxPages) &&
  m.tableLimits.all (·.isValid (Width.count 32 - 1)) &&
  m.exports.all m.isExportValid &&
  m.hasDistinctExports &&
  m.isStartValid &&
  m.segments.all (fun segment => segment.offset.type = .i32 && 0 < m.memoryLimits.length)

end Module

end FormatterHost.Wasm
