import FormatterHost.Number.Shortest
import FormatterHost.Text.Quoted

/-!
# Settings trees

Whatever notation a settings document uses, it is read into the same kind of tree.  Values remember
whether they stem from the document or from the environment, since complaints about them mention it.
-/

namespace FormatterHost

/-- Where a setting comes from. -/
inductive Origin where
  | document
  | environment
deriving Repr, DecidableEq

/-- A setting that is neither empty nor composed of others. -/
inductive Scalar where
  | bool (value : Bool)
  | integer (value : Int)
  | real (value : Float)
  | string (value : String)
deriving Repr

/-- A settings tree.  The entries of a table have distinct keys. -/
inductive Node where
  | nil
  | scalar (value : Scalar) (origin : Origin)
  | sequence (items : List Node)
  | table (entries : List (String × Node))
deriving Repr, Inhabited

/-- What is found in a settings tree where something else is expected. -/
inductive Found where
  | bool (value : Bool)
  | integer (value : Int)
  | unsigned (value : Nat)
  | real (value : Float)
  | string (value : String)
  | nothing
  | sequence
  | table
deriving Repr

namespace Found

/-- The wording where a single value is expected. -/
def describe : Found → String
  | bool value => "boolean `" ++ toString value ++ "`"
  | integer value => "64-bit integer `" ++ toString value ++ "`"
  | unsigned value => "64-bit unsigned integer `" ++ toString value ++ "`"
  | real value => "floating point `" ++ Shortest.text value ++ "`"
  | string value => "string " ++ Text.quoted value
  | nothing => "unit value"
  | sequence => "sequence"
  | table => "map"

/-- The wording where a record is expected. -/
def describeForRecord : Found → String
  | integer value => "integer `" ++ toString value ++ "`"
  | unsigned value => "integer `" ++ toString value ++ "`"
  | real value => "floating point `" ++ Shortest.textWithPoint value ++ "`"
  | found => found.describe

end Found

/-- What a scalar is. -/
def Scalar.found : Scalar → Found
  | bool value => .bool value
  | integer value => .integer value
  | real value => .real value
  | string value => .string value

/-- The text that a scalar stands for. -/
def Scalar.text : Scalar → String
  | bool value => toString value
  | integer value => toString value
  | real value => Shortest.text value
  | string value => value

namespace Node

/-- What a tree is at its root. -/
def found : Node → Found
  | nil => .nothing
  | scalar value _ => value.found
  | sequence _ => .sequence
  | table _ => .table

/-- Where the root of a tree comes from.  The environment contributes scalars only. -/
def origin : Node → Origin
  | scalar _ origin => origin
  | _ => .document

end Node

end FormatterHost
