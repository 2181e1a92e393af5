import FormatterHost.Bytes.Utf8
import FormatterHost.Number.Width
import FormatterHost.Wasm.Module

/-!
# Modules in binary form

Behind a header of eight bytes a module consists of sections in a fixed order.  The sections for
types, functions, memories, exports and code are read; a function body is a row of instructions
without blocks.  Custom sections are passed over.
-/

namespace FormatterHost.Wasm.Binary

/-- The bytes that every module in binary form starts with. -/
def magic : Bytes :=
  [0x00, 0x61, 0x73, 0x6D]

/-- The version of the format. -/
def version : Bytes :=
  [0x01, 0x00, 0x00, 0x00]

/-- A number in groups of seven bits, the lowest first, of at most `groups` groups. -/
def unsigned? : (groups : Nat) → Bytes → Option (Nat × Bytes)
  | 0, _ => none
  | _ + 1, [] => none
  | groups + 1, byte :: bytes =>
    if byte < 0x80 then some (byte.toNat, bytes)
    else
      (unsigned? groups bytes).map fun (high, rest) => (byte.toNat % 128 + 128 * high, rest)

/-- A number below 2 ^ 32. -/
def word? (bytes : Bytes) : Option (Nat × Bytes) :=
  (unsigned? 5 bytes).filter (·.1 < Width.count 32)

/-- A signed number in groups of seven bits; the last group has the sign in its highest bit. -/
def signed? : (groups : Nat) → Bytes → Option (Int × Bytes)
  | 0, _ => none
  | _ + 1, [] => none
  | groups + 1, byte :: bytes =>
    if byte < 0x40 then some (byte.toNat, bytes)
    else if byte < 0x80 then some ((byte.toNat : Int) - 128, bytes)
    else
      (signed? groups bytes).map fun (high, rest) =>
        ((byte.toNat % 128 : Nat) + 128 * high, rest)

/-- A signed number of 32 bits. -/
def signedWord? (bytes : Bytes) : Option (UInt32 × Bytes) :=
  match signed? 5 bytes with
  | some (n, rest) =>
    if -(Width.count 31) ≤ n ∧ n < Width.count 31 then
      some (UInt32.ofNat (n % Width.count 32).toNat, rest)
    else none
  | none => none

/-- A given number of bytes. -/
def take? (count : Nat) (bytes : Bytes) : Option (Bytes × Bytes) :=
  if count ≤ bytes.length then some (bytes.take count, bytes.drop count) else none

/-- A given number of items. -/
def repeat? {α : Type} (item : Bytes → Option (α × Bytes)) : Nat → Bytes → Option (List α × Bytes)
  | 0, bytes => some ([], bytes)
  | count + 1, bytes => do
    let (first, bytes) ← item bytes
    let (rest, bytes) ← repeat? item count bytes
    return (first :: rest, bytes)

/-- A list of items behind their number.  Every item takes at least a byte. -/
def vector? {α : Type} (item : Bytes → Option (α × Bytes)) (bytes : Bytes) :
    Option (List α × Bytes) := do
  let (count, bytes) ← word? bytes
  if count ≤ bytes.length then repeat? item count bytes else none

/-- A name. -/
def name? (bytes : Bytes) : Option (String × Bytes) := do
  let (length, bytes) ← word? bytes
  let (encoded, bytes) ← take? length bytes
  match Utf8.decode encoded with
  | .ok text => return (text, bytes)
  | .error _ => none

/-- The type of a number. -/
def valueType? : Bytes → Option (ValueType × Bytes)
  | 0x7F :: bytes => some (.i32, bytes)
  | 0x7E :: bytes => some (.i64, bytes)
  | 0x7D :: bytes => some (.f32, bytes)
  | 0x7C :: bytes => some (.f64, bytes)
  | _ => none

/-- The type of a function. -/
def functionType? : Bytes → Option (FunctionType × Bytes)
  | 0x60 :: bytes => do
    let (params, bytes) ← vector? valueType? bytes
    let (results, bytes) ← vector? valueType? bytes
    return (⟨params, results⟩, bytes)
  | _ => none

/-- The limits of a memory. -/
def limits? : Bytes → Option (Limits × Bytes)
  | 0x00 :: bytes => (word? bytes).map fun (minimum, rest) => (⟨minimum, none⟩, rest)
  | 0x01 :: bytes => do
    let (minimum, bytes) ← word? bytes
    let (maximum, bytes) ← word? bytes
    return (⟨minimum, some maximum⟩, bytes)
  | _ => none

/-- An export. -/
def export? (bytes : Bytes) : Option (Exported × Bytes) := do
  let (name, bytes) ← name? bytes
  match bytes with
  | kind :: bytes =>
    let kind ←
      if kind = 0 then some ItemKind.function
      else if kind = 1 then some .table
      else if kind = 2 then some .memory
      else if kind = 3 then some .global
      else none
    let (index, bytes) ← word? bytes
    return (⟨name, kind, index⟩, bytes)
  | [] => none

/-- Local variables of one type. -/
def localGroup? (bytes : Bytes) : Option ((Nat × ValueType) × Bytes) := do
  let (count, bytes) ← word? bytes
  let (type, bytes) ← valueType? bytes
  return ((count, type), bytes)

/-- An instruction that names an item by its index. -/
def indexed? (instruction : Nat → Instruction) (bytes : Bytes) : Option (Instruction × Bytes) :=
  (word? bytes).map fun (index, rest) => (instruction index, rest)

/-- An instruction without blocks. -/
def instruction? : Bytes → Option (Instruction × Bytes)
  | 0x00 :: bytes => some (.unreachable, bytes)
  | 0x01 :: bytes => some (.nop, bytes)
  | 0x0F :: bytes => some (.leave, bytes)
  | 0x10 :: bytes => indexed? .call bytes
  | 0x1A :: bytes => some (.drop, bytes)
  | 0x1B :: bytes => some (.select, bytes)
  | 0x20 :: bytes => indexed? .getLocal bytes
  | 0x21 :: bytes => indexed? .setLocal bytes
  | 0x22 :: bytes => indexed? .teeLocal bytes
  | 0x3F :: 0x00 :: bytes => some (.memorySize, bytes)
  | 0x40 :: 0x00 :: bytes => some (.memoryGrow, bytes)
  | 0x41 :: bytes => (signedWord? bytes).map fun (bits, rest) => (.constant (.i32 bits), rest)
  | _ => none

/-- The instructions of a body up to its end, which is also the end of the bytes. -/
def instructions? : Nat → Bytes → Option (List Instruction)
  | 0, _ => none
  | _ + 1, [0x0B] => some []
  | fuel + 1, bytes =>
    match instruction? bytes with
    | some (instruction, rest) => (instructions? fuel rest).map (instruction :: ·)
    | none => none

/-- The most local variables that a function can have. -/
def maxLocals : Nat := 50000

/-- The local variables and the body of a function. -/
def code? (bytes : Bytes) : Option ((List ValueType × List Instruction) × Bytes) := do
  let (length, bytes) ← word? bytes
  let (code, bytes) ← take? length bytes
  let (groups, code) ← vector? localGroup? code
  if groups.foldl (fun total group => total + group.1) 0 ≤ maxLocals then
    let locals := groups.flatMap fun (count, type) => List.replicate count type
    return ((locals, ← instructions? (code.length + 1) code), bytes)
  else none

/-- The parts of a module that its sections hold. -/
structure Sections where
  types : List FunctionType := []
  functions : List Nat := []
  memories : List Limits := []
  exports : List Exported := []
  code : List (List ValueType × List Instruction) := []

/-- The content of a section that it fills completely. -/
def whole? {α : Type} (content : Option (α × Bytes)) : Option α :=
  match content with
  | some (value, []) => some value
  | _ => none

/-- Reads a section of a given number. -/
def section? (sections : Sections) (id : UInt8) (bytes : Bytes) : Option Sections :=
  if id = 1 then (whole? (vector? functionType? bytes)).map ({ sections with types := · })
  else if id = 3 then (whole? (vector? word? bytes)).map ({ sections with functions := · })
  else if id = 5 then (whole? (vector? limits? bytes)).map ({ sections with memories := · })
  else if id = 7 then (whole? (vector? export? bytes)).map ({ sections with exports := · })
  else if id = 10 then (whole? (vector? code? bytes)).map ({ sections with code := · })
  else none

/-- Reads the sections behind one with the number `last`. -/
def sections? : Nat → UInt8 → Sections → Bytes → Option Sections
  | 0, _, _, _ => none
  | _ + 1, _, sections, [] => some sections
  | fuel + 1, last, sections, id :: bytes => do
    let (length, bytes) ← word? bytes
    let (content, bytes) ← take? length bytes
    if id = 0 then
      let _ ← name? content
      sections? fuel last sections bytes
    else if last < id then sections? fuel id (← section? sections id content) bytes
    else none

/-- The functions of a module: each has a type and code. -/
def functions? (types : List FunctionType) :
    List Nat → List (List ValueType × List Instruction) → Option (List Function)
  | [], [] => some []
  | index :: indices, (locals, body) :: code => do
    let type ← types[index]?
    return ⟨type, locals, body⟩ :: (← functions? types indices code)
  | _, _ => none

/-- The module that bytes describe. -/
def module? (bytes : Bytes) : Option Module := do
  let (start, bytes) ← take? 8 bytes
  if start = magic ++ version then
    let sections ← sections? (bytes.length + 1) 0 {} bytes
    let functions ← functions? sections.types sections.functions sections.code
    return { functions, memories := sections.memories, exports := sections.exports }
  else none

end FormatterHost.Wasm.Binary
