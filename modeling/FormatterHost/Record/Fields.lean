import FormatterHost.Record.Schema

/-!
# Records

A record type is described by its fields.  It is written as an object, field after field.  It is
read from an object, whose members may stand in any order and whose unknown members are passed
over, or from an array of the values of the fields.
-/

namespace FormatterHost

open Json (Fault Reading)

/-- A field of a record type. -/
structure Field (ρ : Type) where
  {Value : Type}
  name : String
  /-- Other spellings of the name that are accepted. -/
  aliases : List String
  schema : Schema Value
  get : ρ → Value
  set : Value → ρ → ρ
  /-- Whether a record without this field is refused. -/
  required : Bool
  /-- The values for which the field is not written. -/
  omits : Value → Bool

namespace Field

variable {ρ : Type}

/-- A field that must be there. -/
def mandatory {α : Type} (name : String) (schema : Schema α) (get : ρ → α)
    (set : α → ρ → ρ) : Field ρ :=
  ⟨name, [], schema, get, set, true, fun _ => false⟩

/-- A field that keeps the value of the blank record where it is not given. -/
def defaulted {α : Type} (name : String) (schema : Schema α) (get : ρ → α)
    (set : α → ρ → ρ) : Field ρ :=
  ⟨name, [], schema, get, set, false, fun _ => false⟩

/-- A field that may be absent, and is not written then. -/
def omissible {α : Type} (name : String) (aliases : List String) (schema : Schema α)
    (get : ρ → Option α) (set : Option α → ρ → ρ) : Field ρ :=
  ⟨name, aliases, schema.option, get, set, false, Option.isNone⟩

/-- Whether a name is one of the spellings of the field. -/
def answersTo (field : Field ρ) (name : String) : Bool :=
  name == field.name || field.aliases.contains name

/-- Reads the field into a record. -/
def read (field : Field ρ) (reading : Reading) (record : ρ) : Except Fault ρ :=
  (field.schema.read reading).map (field.set · record)

/-- Takes the field from settings into a record. -/
def convert (field : Field ρ) (node : Node) (record : ρ) : Except Mismatch ρ :=
  (field.schema.convert node).map (field.set · record)

/-- The member that the field is written as, if it is written. -/
def write? (field : Field ρ) (record : ρ) : Option (String × Json) :=
  let value := field.get record
  if field.omits value then none else some (field.name, field.schema.write value)

end Field

/-- A record type: what messages call it, the record to begin with, and the fields in their order.
-/
structure RecordType (ρ : Type) where
  title : String
  blank : ρ
  fields : List (Field ρ)

namespace RecordType

variable {ρ : Type}

/-- The field that a name stands for. -/
def field? (type : RecordType ρ) (name : String) : Option (Field ρ) :=
  type.fields.find? (·.answersTo name)

/-- The first field that must be there and is not among those seen. -/
def missing? (type : RecordType ρ) (seen : List String) : Option (Field ρ) :=
  type.fields.find? fun field => field.required && !seen.contains field.name

/-- Writes a record. -/
def write (type : RecordType ρ) (record : ρ) : Json :=
  .object (type.fields.filterMap (·.write? record))

/-- Reads the members of an object into a record; `seen` are the names of the fields read so far. -/
def readMembers (type : RecordType ρ) (seen : List String) (record : ρ) :
    Json.Members → Except Fault (ρ × List String)
  | .closed => .ok (record, seen)
  | .cut fault => .error fault
  | .nameless fault _ => .error fault
  | .member (.error defect) _ _ => .error defect.asValue
  | .member (.ok name) value rest =>
    match type.field? name with
    | none =>
      match value.skip with
      | .error fault => .error fault
      | .ok () => type.readMembers seen record rest
    | some field =>
      if seen.contains field.name then .error .mismatched
      else
        match field.read value record with
        | .error fault => .error fault
        | .ok record => type.readMembers (field.name :: seen) record rest

/-- Reads the values of the fields one after another. -/
def readItems (record : ρ) : List (Field ρ) → Json.Items → Except Fault ρ
  | [], .closed => .ok record
  | [], .cut fault => .error fault
  | [], .item _ _ => .error .malformed
  | field :: fields, .closed =>
    if (field :: fields).any (·.required) then .error .mismatched else .ok record
  | _ :: _, .cut fault => .error fault
  | field :: fields, .item head rest =>
    match field.read head record with
    | .error fault => .error fault
    | .ok record => readItems record fields rest

/-- Reads a record. -/
def read (type : RecordType ρ) : Reading → Except Fault ρ
  | .object members =>
    match type.readMembers [] type.blank members with
    | .error fault => .error fault
    | .ok (record, seen) =>
      if (type.missing? seen).isSome then .error .mismatched else .ok record
  | .array items => readItems type.blank type.fields items
  | reading => .error reading.asText

/-- Takes the entries of a table into a record. -/
def convertEntries (type : RecordType ρ) (seen : List String) (record : ρ) :
    List (String × Node) → Except Mismatch (ρ × List String)
  | [] => .ok (record, seen)
  | (key, node) :: entries =>
    match type.field? key with
    | none => type.convertEntries seen record entries
    | some field =>
      if seen.contains field.name then .error (.duplicateField field.name)
      else
        match field.convert node record with
        | .error mismatch => .error (mismatch.inside (.key key))
        | .ok record => type.convertEntries (field.name :: seen) record entries

/-- Takes the values of the fields one after another.  Values without a field are passed over. -/
def convertItems (record : ρ) (position : Nat) :
    List (Field ρ) → List Node → Except Mismatch ρ
  | [], _ => .ok record
  | field :: fields, [] =>
    match (field :: fields).find? (·.required) with
    | some field => .error (.missingField field.name)
    | none => .ok record
  | field :: fields, node :: nodes =>
    match field.convert node record with
    | .error mismatch => .error (mismatch.inside (.index position))
    | .ok record => convertItems record (position + 1) fields nodes

/-- Takes a record from settings. -/
def convert (type : RecordType ρ) : Node → Except Mismatch ρ
  | .table entries =>
    match type.convertEntries [] type.blank entries with
    | .error mismatch => .error mismatch
    | .ok (record, seen) =>
      match type.missing? seen with
      | some field => .error (.missingField field.name)
      | none => .ok record
  | .sequence nodes => convertItems type.blank 0 type.fields nodes
  | node => .error (.notRecord node.found type.title)

/-- The schema of a record type. -/
def schema (type : RecordType ρ) : Schema ρ where
  write := type.write
  read := type.read
  convert := type.convert

end RecordType

end FormatterHost
