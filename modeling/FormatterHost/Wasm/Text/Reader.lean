import FormatterHost.Number.Scientific
import FormatterHost.Number.Width
import FormatterHost.Wasm.Module
import FormatterHost.Wasm.Text.Expression

/-!
# Modules in text

A module is a list of fields: imports first, then memories, tables, globals and functions in any
order with exports, data and the start function among them.  Items may have names of their own,
which stand for their indices.  Instructions are written in a row, or folded, with their operands
inside.
-/

namespace FormatterHost.Wasm.Text

/-- The names of the items of a module, in the order of their indices. -/
structure Names where
  functions : List (Option (List Char)) := []
  globals : List (Option (List Char)) := []
  memories : List (Option (List Char)) := []
  tables : List (Option (List Char)) := []

/-- The names in force inside a function. -/
structure Context where
  names : Names
  locals : List (Option (List Char))
  labels : List (Option (List Char))

/-- Whether a word is a name. -/
def isName : List Char → Bool
  | '$' :: _ :: _ => true
  | _ => false

/-- Takes a name from the front, if there is one. -/
def takeName : List Expression → Option (List Char) × List Expression
  | .word text :: rest => if isName text then (some text, rest) else (none, .word text :: rest)
  | items => (none, items)

/-- A digit of a number in base ten or sixteen. -/
def digit? (base : Nat) (c : Char) : Option Nat :=
  (Bytes.hexValue? c).filter (· < base)

/-- The number of a row of digits, between which single underscores may stand. -/
def digitsValue? (base value : Nat) : List Char → Option Nat
  | [] => some value
  | '_' :: c :: cs =>
    match digit? base c with
    | some digit => digitsValue? base (value * base + digit) cs
    | none => none
  | c :: cs =>
    match digit? base c with
    | some digit => digitsValue? base (value * base + digit) cs
    | none => none

/-- A natural number, in base sixteen behind `0x`. -/
def natural? : List Char → Option Nat
  | '0' :: 'x' :: c :: cs => if c = '_' then none else digitsValue? 16 0 (c :: cs)
  | c :: cs => if c = '_' then none else digitsValue? 10 0 (c :: cs)
  | [] => none

/-- The bits of an integer of a given width, written with or without a sign. -/
def integerBits? (bits : Nat) (text : List Char) : Option Nat :=
  match text with
  | '-' :: cs => (natural? cs).bind fun n =>
    if n ≤ Width.count (bits - 1) then some ((Width.count bits - n) % Width.count bits) else none
  | '+' :: cs => (natural? cs).filter (· < Width.count (bits - 1))
  | cs => (natural? cs).filter (· < Width.count bits)

/-- A real number in decimal notation. -/
def real? (text : List Char) : Option Float :=
  if text.any fun c => c.isAlpha && c != 'e' && c != 'E' then none
  else Scientific.real? (String.ofList text)

/-- The type of a number. -/
def valueType? : Expression → Option ValueType
  | .word text =>
    if text = "i32".toList then some .i32
    else if text = "i64".toList then some .i64
    else if text = "f32".toList then some .f32
    else if text = "f64".toList then some .f64
    else none
  | _ => none

/-- A text in quotation marks. -/
def text? : Expression → Option String
  | .quoted bytes => (Utf8.decode bytes).toOption
  | _ => none

/-- The index that a number or a name stands for. -/
def index? (names : List (Option (List Char))) : Expression → Option Nat
  | .word text =>
    if isName text then
      let index := names.findIdx (· = some text)
      if index < names.length then some index else none
    else natural? text
  | _ => none

/-- The items of a list whose first item is a given word. -/
def headed? (head : String) : Expression → Option (List Expression)
  | .list (.word text :: items) => if text = head.toList then some items else none
  | _ => none

/-- Takes the lists with a given head from the front. -/
def takeHeaded (head : String) : List Expression → List (List Expression) × List Expression
  | [] => ([], [])
  | item :: items =>
    match headed? head item with
    | some found =>
      let (more, rest) := takeHeaded head items
      (found :: more, rest)
    | none => ([], item :: items)

/-- Typed variables: a name and a type, or types alone. -/
def variables? (items : List Expression) : Option (List (Option (List Char) × ValueType)) :=
  match takeName items with
  | (some name, [item]) => (valueType? item).map fun type => [(some name, type)]
  | (some _, _) => none
  | (none, items) => items.mapM fun item => (valueType? item).map fun type => (none, type)

/-- Types alone. -/
def types? (items : List Expression) : Option (List ValueType) :=
  items.mapM valueType?

/-- Takes parameters and results from the front. -/
def takeSignature? (items : List Expression) :
    Option (List (Option (List Char) × ValueType) × List ValueType × List Expression) := do
  let (params, items) := takeHeaded "param" items
  let (results, items) := takeHeaded "result" items
  return ((← params.mapM variables?).flatten, (← results.mapM types?).flatten, items)

/-- The type of a function given by parameters and results. -/
def functionType (params : List (Option (List Char) × ValueType)) (results : List ValueType) :
    FunctionType :=
  ⟨params.map (·.2), results⟩

/-- The comparison that a word stands for. -/
def comparison? (op : String) : Option Comparison :=
  [("i32.eq", Comparison.equal), ("i32.ne", .notEqual), ("i32.lt_s", .lessSigned),
    ("i32.lt_u", .lessUnsigned), ("i32.gt_s", .greaterSigned), ("i32.gt_u", .greaterUnsigned),
    ("i32.le_s", .lessEqualSigned), ("i32.le_u", .lessEqualUnsigned),
    ("i32.ge_s", .greaterEqualSigned), ("i32.ge_u", .greaterEqualUnsigned)].lookup op

/-- The operation that a word stands for. -/
def arithmetic? (op : String) : Option Arithmetic :=
  [("i32.add", Arithmetic.add), ("i32.sub", .sub), ("i32.mul", .mul), ("i32.and", .and),
    ("i32.or", .or), ("i32.xor", .xor), ("i32.shl", .shiftLeft),
    ("i32.shr_u", .shiftRightUnsigned)].lookup op

/-- The instruction that a word alone stands for. -/
def bare? (op : String) : Option Instruction :=
  match [("unreachable", Instruction.unreachable), ("nop", .nop), ("drop", .drop),
    ("select", .select), ("return", .leave), ("i32.eqz", .isZero), ("memory.size", .memorySize),
    ("memory.grow", .memoryGrow), ("memory.copy", .memoryCopy)].lookup op with
  | some instruction => some instruction
  | none =>
    match comparison? op with
    | some comparison => some (.compare comparison)
    | none => (arithmetic? op).map .compute

/-- The instruction that a word and an index stand for. -/
def indexed? (context : Context) (op : String) : Option (Expression → Option Instruction) :=
  if op = "br" then some fun item => (index? context.labels item).map .branch
  else if op = "br_if" then some fun item => (index? context.labels item).map .branchIf
  else if op = "call" then some fun item => (index? context.names.functions item).map .call
  else if op = "local.get" then some fun item => (index? context.locals item).map .getLocal
  else if op = "local.set" then some fun item => (index? context.locals item).map .setLocal
  else if op = "local.tee" then some fun item => (index? context.locals item).map .teeLocal
  else if op = "global.get" then some fun item => (index? context.names.globals item).map .getGlobal
  else if op = "global.set" then some fun item => (index? context.names.globals item).map .setGlobal
  else none

/-- The constant that a word and a number stand for. -/
def constant? (op : String) (text : List Char) : Option Value :=
  if op = "i32.const" then (integerBits? 32 text).map fun n => .i32 (UInt32.ofNat n)
  else if op = "i64.const" then (integerBits? 64 text).map fun n => .i64 (UInt64.ofNat n)
  else if op = "f32.const" then (real? text).map fun x => .f32 x.toFloat32.toBits
  else if op = "f64.const" then (real? text).map fun x => .f64 x.toBits
  else none

/-- Takes the offset and the alignment of a memory access from the front; bytes are aligned to one.
-/
def takeOffset? (items : List Expression) : Option (Nat × List Expression) :=
  let (offset, items) :=
    match items with
    | .word ('o' :: 'f' :: 'f' :: 's' :: 'e' :: 't' :: '=' :: digits) :: rest =>
      ((natural? digits).filter (· < Width.count 32), rest)
    | items => (some 0, items)
  let (aligned, items) :=
    match items with
    | .word ('a' :: 'l' :: 'i' :: 'g' :: 'n' :: '=' :: digits) :: rest => (natural? digits, rest)
    | items => (some 1, items)
  match offset, aligned with
  | some offset, some 1 => some (offset, items)
  | _, _ => none

/-- Takes an instruction without a body: its word is `op`, and what it needs comes first in `items`.
-/
def takePlain? (context : Context) (op : String) (items : List Expression) :
    Option (Instruction × List Expression) :=
  match bare? op with
  | some instruction => some (instruction, items)
  | none =>
    match indexed? context op with
    | some read =>
      match items with
      | item :: rest => (read item).map (·, rest)
      | [] => none
    | none =>
      if op = "i32.load8_u" then
        (takeOffset? items).map fun (offset, rest) => (.loadByte offset, rest)
      else if op = "i32.store8" then
        (takeOffset? items).map fun (offset, rest) => (.storeByte offset, rest)
      else
        match items with
        | .word text :: rest => (constant? op text).map fun value => (.constant value, rest)
        | _ => none

/-- Takes the label and the type of a block from the front. -/
def takeBlockHead? (items : List Expression) :
    Option (Option (List Char) × FunctionType × List Expression) := do
  let (label, items) := takeName items
  let (params, results, items) ← takeSignature? items
  return (label, functionType params results, items)

/-- The context inside a block. -/
def Context.enter (context : Context) (label : Option (List Char)) : Context :=
  { context with labels := label :: context.labels }

mutual

/-- The instructions of a row. -/
def instructions? (context : Context) : Nat → List Expression → Option (List Instruction)
  | 0, _ => none
  | _ + 1, [] => some []
  | fuel + 1, .word op :: items =>
    match takePlain? context (String.ofList op) items with
    | some (instruction, rest) => (instructions? context fuel rest).map (instruction :: ·)
    | none => none
  | fuel + 1, .list items :: rest =>
    match folded? context fuel items with
    | some first => (instructions? context fuel rest).map (first ++ ·)
    | none => none
  | _ + 1, .quoted _ :: _ => none

/-- The instructions of a folded expression: those of its operands and its own. -/
def folded? (context : Context) : Nat → List Expression → Option (List Instruction)
  | 0, _ => none
  | fuel + 1, .word op :: items =>
    let op := String.ofList op
    if op = "block" || op = "loop" then do
      let (label, type, items) ← takeBlockHead? items
      let body ← instructions? (context.enter label) fuel items
      return [if op = "block" then .block type body else .loop type body]
    else if op = "if" then do
      let (label, type, items) ← takeBlockHead? items
      let condition := items.takeWhile fun item => (headed? "then" item).isNone
      let condition ← instructions? context fuel condition
      match items.dropWhile fun item => (headed? "then" item).isNone with
      | [whenTrue] => do
        let body ← instructions? (context.enter label) fuel (← headed? "then" whenTrue)
        return condition ++ [.branchOn type body []]
      | [whenTrue, whenFalse] => do
        let body ← instructions? (context.enter label) fuel (← headed? "then" whenTrue)
        let other ← instructions? (context.enter label) fuel (← headed? "else" whenFalse)
        return condition ++ [.branchOn type body other]
      | _ => none
    else
      match takePlain? context op items with
      | some (instruction, operands) =>
        if operands.all fun item => item matches .list _ then
          (instructions? context fuel operands).map (· ++ [instruction])
        else none
      | none => none
  | _ + 1, _ => none

end

mutual

/-- The number of parts of an expression. -/
def size : Expression → Nat
  | .list items => 2 + sizeAll items
  | _ => 1

/-- The number of parts of expressions. -/
def sizeAll : List Expression → Nat
  | [] => 1
  | item :: items => size item + sizeAll items

end

/-- The single constant that an expression or a row denotes. -/
def constantOf? (names : Names) (items : List Expression) : Option Value :=
  match instructions? ⟨names, [], []⟩ (2 * sizeAll items + 2) items with
  | some [.constant value] => some value
  | _ => none

/-- Bounds on a size. -/
def takeLimits? : List Expression → Option (Limits × List Expression)
  | .word low :: .word high :: rest =>
    match natural? low, natural? high with
    | some minimum, some maximum => some (⟨minimum, some maximum⟩, rest)
    | some minimum, none => some (⟨minimum, none⟩, .word high :: rest)
    | none, _ => none
  | .word low :: rest => (natural? low).map fun minimum => (⟨minimum, none⟩, rest)
  | _ => none

/-- The limits of a memory. -/
def memory? (items : List Expression) : Option Limits :=
  match takeLimits? items with
  | some (limits, []) => some limits
  | _ => none

/-- The limits of a table of functions. -/
def table? (items : List Expression) : Option Limits :=
  match takeLimits? items with
  | some (limits, [.word text]) => if text = "funcref".toList then some limits else none
  | _ => none

/-- The type of a global variable. -/
def globalType? (item : Expression) : Option GlobalType :=
  match valueType? item, headed? "mut" item with
  | some type, _ => some ⟨type, false⟩
  | none, some [inner] => (valueType? inner).map (⟨·, true⟩)
  | _, _ => none

/-- Takes the export names of an item from the front. -/
def takeExports? (items : List Expression) : Option (List String × List Expression) := do
  let (found, items) := takeHeaded "export" items
  let names ← found.mapM fun
    | [item] => text? item
    | _ => none
  return (names, items)

/-- An import. -/
def import? : List Expression → Option Imported
  | [source, name, .list (.word head :: items)] => do
    let source ← text? source
    let name ← text? name
    let head := String.ofList head
    let items := (takeName items).2
    if head = "func" then
      match ← takeSignature? items with
      | (params, results, []) => return ⟨source, name, .function (functionType params results)⟩
      | _ => none
    else if head = "global" then
      match items with
      | [item] => return ⟨source, name, .global (← globalType? item)⟩
      | _ => none
    else if head = "memory" then return ⟨source, name, .memory (← memory? items)⟩
    else if head = "table" then return ⟨source, name, .table (← table? items)⟩
    else none
  | _ => none

/-- A function. -/
def function? (names : Names) (items : List Expression) : Option Function := do
  let (params, results, items) ← takeSignature? items
  let (locals, items) := takeHeaded "local" items
  let locals := (← locals.mapM variables?).flatten
  let variableNames := (params ++ locals).map (·.1)
  let body ← instructions? ⟨names, variableNames, [none]⟩ (2 * sizeAll items + 2) items
  return ⟨functionType params results, locals.map (·.2), body⟩

/-- A data segment. -/
def segment? (names : Names) (items : List Expression) : Option Segment :=
  match (takeName items).2 with
  | .list offset :: strings => do
    let offset ← constantOf? names ((headed? "offset" (.list offset)).getD [.list offset])
    let bytes ← strings.mapM fun
      | .quoted bytes => some bytes
      | _ => none
    return ⟨offset, bytes.flatten⟩
  | _ => none

/-- The index space that a word stands for. -/
def itemKind? (head : String) : Option ItemKind :=
  [("func", ItemKind.function), ("table", .table), ("memory", .memory), ("global", .global)].lookup
    head

/-- The names of an index space. -/
def Names.ofKind (names : Names) : ItemKind → List (Option (List Char))
  | .function => names.functions
  | .table => names.tables
  | .memory => names.memories
  | .global => names.globals

/-- Adds the name of the next item of an index space. -/
def Names.add (names : Names) (kind : ItemKind) (name : Option (List Char)) : Names :=
  match kind with
  | .function => { names with functions := names.functions ++ [name] }
  | .table => { names with tables := names.tables ++ [name] }
  | .memory => { names with memories := names.memories ++ [name] }
  | .global => { names with globals := names.globals ++ [name] }

/-- The kind and the name of an item, given its description. -/
def described? : List Expression → Option (ItemKind × Option (List Char))
  | .word head :: items => (itemKind? (String.ofList head)).map (·, (takeName items).1)
  | _ => none

/-- The item that a field introduces, and its name.  An import describes its item inside. -/
def introduced? (field : List Expression) : Option (ItemKind × Option (List Char)) :=
  match headed? "import" (.list field) with
  | some [_, _, .list items] => described? items
  | some _ => none
  | none => described? field

/-- Collects the names of all items; no two items of an index space have the same one. -/
def Names.ofFields (names : Names) : List (List Expression) → Option Names
  | [] => some names
  | field :: fields =>
    match introduced? field with
    | some (kind, name) =>
      if name.isSome && (names.ofKind kind).contains name then none
      else Names.ofFields (names.add kind name) fields
    | none => Names.ofFields names fields

/-- Adds the exports of an item. -/
def addExports (m : Module) (names : List String) (kind : ItemKind) (index : Nat) : Module :=
  { m with exports := m.exports ++ names.map (⟨·, kind, index⟩) }

/-- Whether a module has items of its own, behind which no import may follow. -/
def hasOwnItems (m : Module) : Bool :=
  !(m.functions.isEmpty && m.tables.isEmpty && m.memories.isEmpty && m.globals.isEmpty)

/-- Adds a field to a module. -/
def addField? (names : Names) (m : Module) : List Expression → Option Module
  | .word head :: items => do
    let head := String.ofList head
    if head = "import" then
      if hasOwnItems m then none
      else return { m with imports := m.imports ++ [← import? items] }
    else if head = "func" then
      let (exports, items) ← takeExports? (takeName items).2
      let m := addExports m exports .function m.functionTypes.length
      return { m with functions := m.functions ++ [← function? names items] }
    else if head = "memory" then
      let (exports, items) ← takeExports? (takeName items).2
      let m := addExports m exports .memory m.memoryLimits.length
      return { m with memories := m.memories ++ [← memory? items] }
    else if head = "table" then
      let (exports, items) ← takeExports? (takeName items).2
      let m := addExports m exports .table m.tableLimits.length
      return { m with tables := m.tables ++ [← table? items] }
    else if head = "global" then
      let (exports, items) ← takeExports? (takeName items).2
      let m := addExports m exports .global m.globalTypes.length
      match items with
      | item :: initial =>
        let global : Global := ⟨← globalType? item, ← constantOf? names initial⟩
        return { m with globals := m.globals ++ [global] }
      | [] => none
    else if head = "export" then
      match items with
      | [name, .list [.word kind, item]] =>
        let kind ← itemKind? (String.ofList kind)
        return addExports m [← text? name] kind (← index? (names.ofKind kind) item)
      | _ => none
    else if head = "start" then
      match items, m.start with
      | [item], none => return { m with start := some (← index? names.functions item) }
      | _, _ => none
    else if head = "data" then
      return { m with segments := m.segments ++ [← segment? names items] }
    else none
  | _ => none

/-- The fields of a module: those in its parentheses, or all expressions of the text. -/
def fields? : List Expression → Option (List Expression)
  | [] => none
  | [item] =>
    match headed? "module" item with
    | some items => some (takeName items).2
    | none => some [item]
  | items => some items

/-- The module that a text describes. -/
def module? (text : String) : Option Module := do
  let fields ← fields? (← Expression.ofText? text)
  let fields ← fields.mapM fun
    | .list items => some items
    | _ => none
  let names ← Names.ofFields {} fields
  fields.foldlM (addField? names) {}

end FormatterHost.Wasm.Text
