import FormatterHost.Failure
import FormatterHost.Text.Lowercase

/-!
# Notations of settings documents

The extension of a file's name tells in which notation it is written.
-/

namespace FormatterHost

/-- A notation for settings documents. -/
inductive DocumentNotation where
  | toml
  | yaml
  | json
deriving Repr, DecidableEq

namespace FilePath

/-- The parts of a path between slashes. -/
def parts (path : List Char) : List (List Char) :=
  path.splitOn '/'

/-- The last part of a path that is not empty and does not stay in place. -/
def fileName? (path : String) : Option (List Char) :=
  match (parts path.toList).reverse.dropWhile fun part => part = [] || part = ['.'] with
  | [] => none
  | part :: _ => if part = ['.', '.'] then none else some part

/-- What follows the last dot of a file name, provided that something precedes that dot. -/
def extension? (path : String) : Option String :=
  match fileName? path with
  | none => none
  | some name =>
    let ending := (name.reverse.takeWhile (· ≠ '.')).reverse
    if ending.length + 1 < name.length then some (String.ofList ending) else none

end FilePath

namespace DocumentNotation

/-- The name of a notation. -/
def name : DocumentNotation → String
  | toml => "toml"
  | yaml => "yaml"
  | json => "json"

/-- The notation with a given name. -/
def ofName? (name : String) : Option DocumentNotation :=
  [toml, yaml, json].find? (·.name == name)

/-- The notation of a file, by its path. -/
def ofPath (path : String) : Except Failure DocumentNotation :=
  match FilePath.extension? path with
  | none => .error (.settings "No file extension found")
  | some ending =>
    let lower := Text.lower ending
    if lower = "yaml" ∨ lower = "yml" then .ok yaml
    else if lower = "toml" then .ok toml
    else if lower = "json" then .ok json
    else .error (.settings s!"Unsupported format: {ending}")

end DocumentNotation

end FormatterHost
