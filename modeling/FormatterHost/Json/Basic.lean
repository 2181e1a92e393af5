/-!
# JSON values

The values that are written as JSON.  Numbers are integers, and the members of an object stand in
the order in which they are written.
-/

namespace FormatterHost

/-- A JSON value. -/
inductive Json where
  | null
  | bool (value : Bool)
  | integer (value : Int)
  | string (value : String)
  | array (items : List Json)
  | object (members : List (String × Json))
deriving Repr, Inhabited

namespace Json

/-- A natural number. -/
def natural (n : Nat) : Json :=
  .integer n

/-- The value of the first member of a name. -/
def member? (name : String) : Json → Option Json
  | .object members => members.lookup name
  | _ => none

/-- The same, unless that value is null. -/
def given? (name : String) (value : Json) : Option Json :=
  match value.member? name with
  | some null => none
  | found => found

/-- The text that a value is. -/
def asText? : Json → Option String
  | string text => some text
  | _ => none

/-- The number that a value is. -/
def asInteger? : Json → Option Int
  | integer n => some n
  | _ => none

/-- The items of an array. -/
def asItems? : Json → Option (List Json)
  | array items => some items
  | _ => none

/-- The members of an object. -/
def asMembers? : Json → Option (List (String × Json))
  | object members => some members
  | _ => none

/-- The text of the first member of a name. -/
def text? (name : String) (value : Json) : Option String :=
  (value.member? name).bind asText?

/-- The number of the first member of a name. -/
def integer? (name : String) (value : Json) : Option Int :=
  (value.member? name).bind asInteger?

/-- The items of the first member of a name. -/
def items? (name : String) (value : Json) : Option (List Json) :=
  (value.member? name).bind asItems?

end Json

end FormatterHost
