import FormatterHost.Settings.Node

/-!
# Mismatches

Why a settings tree does not hold the record that is asked for, and the wording of that report.
-/

namespace FormatterHost

/-- A step from a tree to one of its parts. -/
inductive PathStep where
  | key (name : String)
  | index (position : Nat)
deriving Repr, DecidableEq

/-- The path to a part of a tree: keys are joined by dots, positions stand in brackets. -/
def PathStep.pathText : List PathStep → String
  | [] => ""
  | .index position :: steps => s!"[{position}]" ++ behind steps
  | .key name :: steps => name ++ behind steps
where
  /-- The text of the steps that follow another one. -/
  behind : List PathStep → String
    | .key name :: steps => "." ++ name ++ behind steps
    | .index position :: steps => s!"[{position}]" ++ behind steps
    | [] => ""

/-- Why a settings tree is not what it should be. -/
inductive Mismatch where
  /-- A single value has the wrong type; the path leads to it. -/
  | wrongType (found : Found) (expected : String) (path : List PathStep) (origin : Origin)
  /-- Something else stands where a record is expected. -/
  | notRecord (found : Found) (title : String)
  /-- A choice has no alternative of this name. -/
  | noAlternative (title name : String)
  /-- A choice is neither a name nor a table with one key. -/
  | notChoice (title : String)
  /-- Two keys of a table name the same field. -/
  | duplicateField (name : String)
  /-- A field that must be there is not. -/
  | missingField (name : String)
deriving Repr

namespace Mismatch

/-- The same mismatch, seen from one step further up. -/
def inside (step : PathStep) : Mismatch → Mismatch
  | wrongType found expected path origin => .wrongType found expected (step :: path) origin
  | mismatch => mismatch

/-- The wording of a mismatch. -/
def message : Mismatch → String
  | wrongType found expected path origin =>
    let place := if path = [] then "" else " for key `" ++ PathStep.pathText path ++ "`"
    let source := if origin = .environment then " in the environment" else ""
    s!"invalid type: {found.describe}, expected {expected}" ++ place ++ source
  | notRecord found title =>
    s!"invalid type: {found.describeForRecord}, expected struct {title}"
  | noAlternative title name => s!"enum {title} does not have variant constructor {name}"
  | notChoice title =>
    s!"value of enum {title} should be represented by either string or table with exactly one key"
  | duplicateField name => "duplicate field `" ++ name ++ "`"
  | missingField name => "missing field `" ++ name ++ "`"

end Mismatch

end FormatterHost
