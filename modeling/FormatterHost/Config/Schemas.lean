import FormatterHost.Config.Patch
import FormatterHost.Record.Fields

/-!
# External forms of the configuration

Complete records name every setting.  Patches leave out what they do not change, and accept each
name also with underscores and in lower case, as environment variables spell it.
-/

namespace FormatterHost

namespace NewlineKind

/-- The name of a kind. -/
def name : NewlineKind → String
  | auto => "auto"
  | lf => "lf"
  | crlf => "crlf"
  | system => "system"

def schema : Schema NewlineKind :=
  .choice "NewLineKind" [auto, lf, crlf, system] name

end NewlineKind

namespace SemicolonUse

/-- The name of a use. -/
def name : SemicolonUse → String
  | always => "prefer"
  | whereNeeded => "asi"

def schema : Schema SemicolonUse :=
  .choice "SemiColons" [always, whereNeeded] name

end SemicolonUse

namespace QuoteStyle

/-- The name of a style. -/
def name : QuoteStyle → String
  | preferSingle => "preferSingle"
  | alwaysDouble => "alwaysDouble"

def schema : Schema QuoteStyle :=
  .choice "QuoteStyle" [preferSingle, alwaysDouble] name

end QuoteStyle

namespace GlobalConfig

def recordType : RecordType GlobalConfig where
  title := "GlobalConfiguration"
  blank := {}
  fields := [
    .mandatory "lineWidth" .uint32 lineWidth fun value c => { c with lineWidth := value },
    .mandatory "indentWidth" .uint32 indentWidth fun value c => { c with indentWidth := value },
    .mandatory "useTabs" .bool useTabs fun value c => { c with useTabs := value },
    .mandatory "newLineKind" NewlineKind.schema newlineKind
      fun value c => { c with newlineKind := value }]

def schema : Schema GlobalConfig :=
  recordType.schema

end GlobalConfig

namespace PluginConfig

def recordType : RecordType PluginConfig where
  title := "PluginConfig"
  blank := {}
  fields := [
    .mandatory "semiColons" SemicolonUse.schema semicolons
      fun value c => { c with semicolons := value },
    .mandatory "quoteStyle" QuoteStyle.schema quotes fun value c => { c with quotes := value }]

def schema : Schema PluginConfig :=
  recordType.schema

end PluginConfig

namespace GlobalPatch

def recordType : RecordType GlobalPatch where
  title := "GlobalConfigOverride"
  blank := {}
  fields := [
    .omissible "lineWidth" ["line_width", "linewidth"] .uint32 lineWidth
      fun value p => { p with lineWidth := value },
    .omissible "indentWidth" ["indent_width", "indentwidth"] .uint32 indentWidth
      fun value p => { p with indentWidth := value },
    .omissible "useTabs" ["use_tabs", "usetabs"] .bool useTabs
      fun value p => { p with useTabs := value },
    .omissible "newLineKind" ["new_line_kind", "newlinekind"] NewlineKind.schema newlineKind
      fun value p => { p with newlineKind := value }]

def schema : Schema GlobalPatch :=
  recordType.schema

end GlobalPatch

namespace PluginPatch

def recordType : RecordType PluginPatch where
  title := "PluginConfigOverride"
  blank := {}
  fields := [
    .omissible "semiColons" ["semi_colons", "semicolons"] SemicolonUse.schema semicolons
      fun value p => { p with semicolons := value },
    .omissible "quoteStyle" ["quote_style", "quotestyle"] QuoteStyle.schema quotes
      fun value p => { p with quotes := value }]

def schema : Schema PluginPatch :=
  recordType.schema

end PluginPatch

namespace Patch

def recordType : RecordType Patch where
  title := "ConfigOverrides"
  blank := {}
  fields := [
    .defaulted "global" GlobalPatch.schema Patch.global fun value p => { p with global := value },
    .defaulted "plugin" PluginPatch.schema Patch.plugin fun value p => { p with plugin := value }]

def schema : Schema Patch :=
  recordType.schema

end Patch

end FormatterHost
