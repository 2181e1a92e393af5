import FormatterHost.Json.Reader
import FormatterHost.Number.Width
import FormatterHost.Settings.Entries
import FormatterHost.Settings.Node

/-!
# Settings in JSON

A JSON document must be complete and without mistakes, and may not be nested too deeply.  Of members
with the same name the last counts.  Integers beyond 64 bits with a sign become real numbers.
-/

namespace FormatterHost.JsonDocument

open Json (Items Members Reading)

/-- The nesting that is refused. -/
def depthLimit : Nat := 128

/-- The setting that a number stands for. -/
def scalarOfNumber : Json.Number → Scalar
  | .integer n => if n < Width.count 63 then .integer n else .real (Float.ofInt n)
  | .real x => .real x

mutual

/-- The tree of a value, with `depth` levels of nesting left. -/
def nodeOf? (depth : Nat) : Reading → Option Node
  | .null => some .nil
  | .bool value => some (.scalar (.bool value) .document)
  | .number value => some (.scalar (scalarOfNumber value) .document)
  | .string value => some (.scalar (.string value) .document)
  | .array items =>
    match depth with
    | 0 | 1 => none
    | depth + 1 => (itemsOf? depth items).map .sequence
  | .object members =>
    match depth with
    | 0 | 1 => none
    | depth + 1 => (entriesOf? depth [] members).map .table
  | .flawed _ => none

/-- The trees of items. -/
def itemsOf? (depth : Nat) : Items → Option (List Node)
  | .closed => some []
  | .cut _ => none
  | .item head rest =>
    match nodeOf? depth head with
    | some node => (itemsOf? depth rest).map (node :: ·)
    | none => none

/-- The trees of members, added to `entries`. -/
def entriesOf? (depth : Nat) (entries : List (String × Node)) :
    Members → Option (List (String × Node))
  | .closed => some entries
  | .member (.ok name) value rest =>
    match nodeOf? depth value with
    | some node => entriesOf? depth (Entries.put name node entries) rest
    | none => none
  | _ => none

end

/-- The tree of a document. -/
def node? (text : String) : Option Node :=
  match Reading.ofChars text.toList with
  | (reading, some rest) =>
    if Json.skipBlanks rest = [] then nodeOf? depthLimit reading else none
  | (_, none) => none

end FormatterHost.JsonDocument
