/-!
# Readings of a JSON text

Whether a text is acceptable depends on what is asked of it: a number too large to be represented
does no harm where it is passed over, and a mistake in the text goes unnoticed if an earlier value
is already of the wrong type.  A reading therefore keeps everything that a reader can meet on its
way from left to right, the mistakes included, and whoever interprets it reports the first that
matters.
-/

namespace FormatterHost.Json

/-- The classes of mistakes. -/
inductive Fault where
  /-- The text breaks the grammar. -/
  | malformed
  /-- The text ends too early. -/
  | unfinished
  /-- The text so far is well formed, but not of the type that is asked for. -/
  | mismatched
deriving Repr, DecidableEq

/-- A number as it is read. -/
inductive Number where
  | integer (value : Int)
  | real (value : Float)
deriving Repr

/-- A mistake inside a string or a number: what it means to a reader of the value, and what it means
where the value is only passed over. -/
structure Defect where
  asValue : Fault
  asSkipped : Option Fault
deriving Repr

/-- A mistake in place of a value, by the kind of value that it starts like. -/
inductive Flaw where
  /-- Nothing here starts a value. -/
  | absent (fault : Fault)
  | null (fault : Fault)
  | bool (fault : Fault)
  | number (defect : Defect)
  | string (defect : Defect)
deriving Repr

namespace Flaw

/-- The fault that a reader of a value reports. -/
def asValue : Flaw → Fault
  | absent fault => fault
  | null fault => fault
  | bool fault => fault
  | number defect => defect.asValue
  | string defect => defect.asValue

/-- The fault that a reader of an alternative reports: it looks for a string or an object and no
further. -/
def asAlternative : Flaw → Fault
  | absent fault => fault
  | string defect => defect.asValue
  | _ => .malformed

/-- The fault that is reported where the value is passed over. -/
def asSkipped : Flaw → Option Fault
  | absent fault => some fault
  | null fault => some fault
  | bool fault => some fault
  | number defect => defect.asSkipped
  | string defect => defect.asSkipped

end Flaw

mutual

/-- What a text says where a value is expected. -/
inductive Reading where
  | null
  | bool (value : Bool)
  | number (value : Number)
  | string (value : String)
  | array (items : Items)
  | object (members : Members)
  | flawed (flaw : Flaw)

/-- What a text says after an opening bracket. -/
inductive Items where
  | closed
  /-- There is neither a comma nor the closing bracket. -/
  | cut (fault : Fault)
  | item (head : Reading) (rest : Items)

/-- What a text says after an opening brace. -/
inductive Members where
  | closed
  /-- There is neither a comma nor the closing brace. -/
  | cut (fault : Fault)
  /-- There is something else than a name; `asText` is what it means to a reader of a string. -/
  | nameless (fault asText : Fault)
  | member (name : Except Defect String) (value : Reading) (rest : Members)

end

mutual

/-- Passing over a value: the first fault that shows even so. -/
def Reading.skip : Reading → Except Fault Unit
  | .array items => items.skip
  | .object members => members.skip
  | .flawed flaw =>
    match flaw.asSkipped with
    | some fault => .error fault
    | none => .ok ()
  | _ => .ok ()

/-- Passing over the rest of an array. -/
def Items.skip : Items → Except Fault Unit
  | .closed => .ok ()
  | .cut fault => .error fault
  | .item head rest =>
    match head.skip with
    | .error fault => .error fault
    | .ok () => rest.skip

/-- Passing over the rest of an object. -/
def Members.skip : Members → Except Fault Unit
  | .closed => .ok ()
  | .cut fault => .error fault
  | .nameless fault _ => .error fault
  | .member (.error ⟨_, some fault⟩) _ _ => .error fault
  | .member _ value rest =>
    match value.skip with
    | .error fault => .error fault
    | .ok () => rest.skip

end

/-- The fault that a reader of a string reports here, if what stands here is no string. -/
def Reading.asText : Reading → Fault
  | .flawed flaw => flaw.asValue
  | _ => .mismatched

end FormatterHost.Json
