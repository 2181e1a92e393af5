import FormatterHost.Json.Printer
import FormatterHost.Json.Reader
import FormatterHost.Number.Scientific
import FormatterHost.Number.Width
import FormatterHost.Settings.Mismatch
import FormatterHost.Text.Lowercase

/-!
# Schemas

A schema says how the values of a type are written as JSON, how they are read back from JSON text,
and how they are taken from a settings tree.  JSON is read strictly: nothing but the written form of
a value is accepted.  A settings tree is read leniently, because environment variables and
hand-written documents spell numbers and truth values in many ways.
-/

namespace FormatterHost

open Json (Fault Reading)

/-- The external forms of a type. -/
structure Schema (α : Type) where
  write : α → Json
  read : Reading → Except Fault α
  convert : Node → Except Mismatch α

namespace Schema

variable {α : Type}

/-- The mismatch of a single value. -/
def wrongType (node : Node) (expected : String) : Except Mismatch α :=
  .error (.wrongType node.found expected [] node.origin)

/-- The truth value that a lower-case word stands for. -/
def truthWord? (word : String) : Option Bool :=
  if ["1", "true", "on", "yes"].contains word then some true
  else if ["0", "false", "off", "no"].contains word then some false
  else none

/-- Truth values.  In settings a number is true unless it is zero. -/
def bool : Schema Bool where
  write := .bool
  read
    | .bool value => .ok value
    | reading => .error reading.asText
  convert
    | .scalar (.bool value) _ => .ok value
    | .scalar (.integer value) _ => .ok (value != 0)
    | .scalar (.real value) _ => .ok (value != 0.0)
    | .scalar (.string value) origin =>
      let word := Text.lower value
      match truthWord? word with
      | some value => .ok value
      | none => .error (.wrongType (.string word) "a boolean" [] origin)
    | node => wrongType node "a boolean"

/-- The number that a text in a settings tree stands for: a truth word counts as one or zero. -/
def numberWord? (text : String) : Option Nat :=
  let word := Text.lower text
  if ["true", "on", "yes"].contains word then some 1
  else if ["false", "off", "no"].contains word then some 0
  else Scientific.unsigned? (Width.count 64 - 1) text

/-- The natural number of at most 64 bits that a settings tree stands for.  Real numbers are
rounded, halves away from zero, and brought into range. -/
def convertNatural : Node → Except Mismatch Nat
  | .scalar (.bool value) _ => .ok (if value then 1 else 0)
  | .scalar (.integer value) origin =>
    if 0 ≤ value then .ok value.toNat
    else .error (.wrongType (.integer value) "an unsigned 64 bit or less integer" [] origin)
  | .scalar (.real value) _ => .ok value.round.toUInt64.toNat
  | .scalar (.string value) origin =>
    match numberWord? value with
    | some value => .ok value
    | none => .error (.wrongType (.string value) "an integer" [] origin)
  | node => wrongType node "an integer"

/-- Natural numbers of a given width. -/
def natural (bits : Nat) (ofNat : Nat → α) (toNat : α → Nat) : Schema α where
  write value := .natural (toNat value)
  read
    | .number (.integer value) =>
      if 0 ≤ value ∧ value < Width.count bits then .ok (ofNat value.toNat) else .error .mismatched
    | reading => .error reading.asText
  convert node :=
    match convertNatural node with
    | .error mismatch => .error mismatch
    | .ok value =>
      if value < Width.count bits then .ok (ofNat value)
      else
        .error (.wrongType (.unsigned value) s!"an unsigned {bits} bit integer" [] .document)

/-- Natural numbers of 32 bits. -/
def uint32 : Schema UInt32 :=
  natural 32 UInt32.ofNat UInt32.toNat

/-- Natural numbers of 64 bits. -/
def uint64 : Schema UInt64 :=
  natural 64 UInt64.ofNat UInt64.toNat

/-- Texts.  In settings a truth value or a number stands for its own text. -/
def string : Schema String where
  write := .string
  read
    | .string value => .ok value
    | reading => .error reading.asText
  convert
    | .scalar value _ => .ok value.text
    | node => wrongType node "a string"

/-- Values that may be absent. -/
def option (schema : Schema α) : Schema (Option α) where
  write
    | none => .null
    | some value => schema.write value
  read
    | .null => .ok none
    | .flawed (.null fault) => .error fault
    | reading => (schema.read reading).map some
  convert
    | .nil => .ok none
    | node => (schema.convert node).map some

/-- Reads items one after another. -/
def readItems (schema : Schema α) : Json.Items → Except Fault (List α)
  | .closed => .ok []
  | .cut fault => .error fault
  | .item head rest => do return (← schema.read head) :: (← schema.readItems rest)

/-- Takes items from settings one after another. -/
def convertItems (schema : Schema α) (position : Nat) : List Node → Except Mismatch (List α)
  | [] => .ok []
  | node :: nodes => do
    let value ← (schema.convert node).mapError (Mismatch.inside (.index position))
    return value :: (← schema.convertItems (position + 1) nodes)

/-- Lists. -/
def list (schema : Schema α) : Schema (List α) where
  write values := .array (values.map schema.write)
  read
    | .array items => schema.readItems items
    | reading => .error reading.asText
  convert
    | .sequence nodes => schema.convertItems 0 nodes
    | node => wrongType node "a sequence"

/-- Reads a choice written as an object: its one name is the alternative, and the value is null. -/
def readChoice (find : String → Option α) : Json.Members → Except Fault α
  | .closed => .error .malformed
  | .cut fault => .error fault
  | .nameless _ asText => .error asText
  | .member (.error defect) _ _ => .error defect.asValue
  | .member (.ok name) value rest =>
    match find name with
    | none => .error .mismatched
    | some choice =>
      match value, rest with
      | .null, .closed => .ok choice
      | .null, .cut fault => .error fault
      | .null, _ => .error .malformed
      | value, _ => .error value.asText

/-- Choices between named alternatives.  Settings do not distinguish capital from small letters. -/
def choice (title : String) (alternatives : List α) (name : α → String) : Schema α where
  write value := .string (name value)
  read
    | .string text =>
      match alternatives.find? fun value => name value == text with
      | some value => .ok value
      | none => .error .mismatched
    | .object members => readChoice (fun text => alternatives.find? (name · == text)) members
    | .flawed flaw => .error flaw.asAlternative
    | _ => .error .malformed
  convert node :=
    let find (text : String) : Except Mismatch α :=
      match alternatives.find? fun value => Text.lower (name value) == Text.lower text with
      | some value => .ok value
      | none => .error (.noAlternative title text)
    match node with
    | .scalar (.string text) _ => find text
    | .table [(text, _)] => find text
    | _ => .error (.notChoice title)

/-- The text of a value. -/
def print (schema : Schema α) (value : α) : String :=
  (schema.write value).render

/-- Reads a text that holds one value and nothing else. -/
def parse (schema : Schema α) (text : String) : Except Fault α :=
  Json.readAs schema.read text

end Schema

end FormatterHost
