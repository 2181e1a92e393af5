/-!
# Formatting configuration

A plugin keeps two configurations: a global one, whose settings every formatting plugin understands,
and one of its own.  Both reach it as complete records.
-/

namespace FormatterHost

/-- The line ends that are written. -/
inductive NewlineKind where
  /-- The kind that the text uses most. -/
  | auto
  | lf
  | crlf
  /-- The kind of the platform. -/
  | system
deriving Repr, DecidableEq

/-- The use of semicolons. -/
inductive SemicolonUse where
  /-- Every statement ends with a semicolon. -/
  | always
  /-- Only where a statement would otherwise be read differently. -/
  | whereNeeded
deriving Repr, DecidableEq

/-- The quotation marks of string literals. -/
inductive QuoteStyle where
  | preferSingle
  | alwaysDouble
deriving Repr, DecidableEq

/-- The settings that are common to all plugins. -/
structure GlobalConfig where
  lineWidth : UInt32 := 80
  indentWidth : UInt32 := 2
  useTabs : Bool := false
  newlineKind : NewlineKind := .auto
deriving Repr, DecidableEq

/-- The settings of the plugin itself. -/
structure PluginConfig where
  semicolons : SemicolonUse := .whereNeeded
  quotes : QuoteStyle := .preferSingle
deriving Repr, DecidableEq

instance : Inhabited GlobalConfig := ⟨{}⟩

instance : Inhabited PluginConfig := ⟨{}⟩

namespace GlobalConfig

/-- What is wrong with a global configuration: no plugin can honour a width of zero. -/
def problem? (config : GlobalConfig) : Option String :=
  if config.lineWidth = 0 then some "lineWidth must be a positive integer"
  else if config.indentWidth = 0 then some "indentWidth must be a positive integer"
  else none

/-- Nothing is wrong exactly when both widths are positive. -/
theorem problem?_eq_none_iff (config : GlobalConfig) :
    config.problem? = none ↔ config.lineWidth ≠ 0 ∧ config.indentWidth ≠ 0 := by
  unfold problem?
  split
  · simp_all
  · split <;> simp_all

end GlobalConfig

/-- The two configurations of a plugin. -/
inductive Scope where
  | global
  | plugin
deriving Repr, DecidableEq

namespace Scope

/-- The name of a scope. -/
def name : Scope → String
  | global => "global"
  | plugin => "plugin"

/-- All scopes, in the order in which they are sent. -/
def all : List Scope :=
  [global, plugin]

end Scope

end FormatterHost
