import FormatterHost.Number.Scientific
import FormatterHost.Settings.Entries
import FormatterHost.Settings.Node
import FormatterHost.Settings.Substitution
import FormatterHost.Text.Lowercase

/-!
# Settings in the environment

Variables whose names start with a common prefix hold settings.  The rest of the name leads to the
setting, two underscores standing for a dot, and the value is a truth value, a number or a text, by
what it looks like.
-/

namespace FormatterHost.Environment

/-- What the names of the variables that hold settings start with. -/
def namePrefix : String := "DPRINT_BRIDGE"

/-- What separates the parts of such a name. -/
def separator : List Char := ['_', '_']

/-- The text with every two underscores replaced by a dot. -/
def dotted : List Char → List Char
  | '_' :: '_' :: cs => '.' :: dotted cs
  | c :: cs => c :: dotted cs
  | [] => []

/-- The key of the setting that a variable holds, if it holds one. -/
def settingKey? (name : String) : Option String :=
  let lead := (Text.lower namePrefix).toList ++ separator
  let name := (Text.lower name).toList
  if lead.isPrefixOf name then some (String.ofList (dotted (name.drop lead.length))) else none

/-- The setting that the value of a variable stands for. -/
def settingValue (value : String) : Scalar :=
  let word := Text.lower value
  if word = "true" then .bool true
  else if word = "false" then .bool false
  else
    match Scientific.signed? value with
    | some n => .integer n
    | none =>
      match Scientific.real? value with
      | some x => .real x
      | none => .string value

/-- The settings that an environment holds. -/
def settings (environment : Environment) : List (String × Node) :=
  environment.foldl (fun entries (name, value) =>
    match settingKey? name with
    | some key => Entries.put key (.scalar (settingValue value) .environment) entries
    | none => entries) []

end FormatterHost.Environment
