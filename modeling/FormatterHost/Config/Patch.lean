import FormatterHost.Config.Basic

/-!
# Patches

A patch names the settings that are to differ from what lies beneath it.  Patches can be laid over
each other; field by field, the uppermost one that says anything decides.
-/

namespace FormatterHost

/-- Changes to a global configuration. -/
structure GlobalPatch where
  lineWidth : Option UInt32 := none
  indentWidth : Option UInt32 := none
  useTabs : Option Bool := none
  newlineKind : Option NewlineKind := none
deriving Repr, DecidableEq

/-- Changes to a plugin's own configuration. -/
structure PluginPatch where
  semicolons : Option SemicolonUse := none
  quotes : Option QuoteStyle := none
deriving Repr, DecidableEq

/-- Changes to both configurations. -/
structure Patch where
  global : GlobalPatch := {}
  plugin : PluginPatch := {}
deriving Repr, DecidableEq

namespace GlobalPatch

/-- Whether a patch changes nothing. -/
def isEmpty (patch : GlobalPatch) : Bool :=
  patch = {}

/-- One patch laid over another. -/
def atop (upper lower : GlobalPatch) : GlobalPatch where
  lineWidth := upper.lineWidth <|> lower.lineWidth
  indentWidth := upper.indentWidth <|> lower.indentWidth
  useTabs := upper.useTabs <|> lower.useTabs
  newlineKind := upper.newlineKind <|> lower.newlineKind

/-- The configuration that results from a patch. -/
def applyTo (patch : GlobalPatch) (base : GlobalConfig) : GlobalConfig where
  lineWidth := patch.lineWidth.getD base.lineWidth
  indentWidth := patch.indentWidth.getD base.indentWidth
  useTabs := patch.useTabs.getD base.useTabs
  newlineKind := patch.newlineKind.getD base.newlineKind

end GlobalPatch

namespace PluginPatch

/-- Whether a patch changes nothing. -/
def isEmpty (patch : PluginPatch) : Bool :=
  patch = {}

/-- One patch laid over another. -/
def atop (upper lower : PluginPatch) : PluginPatch where
  semicolons := upper.semicolons <|> lower.semicolons
  quotes := upper.quotes <|> lower.quotes

/-- The configuration that results from a patch. -/
def applyTo (patch : PluginPatch) (base : PluginConfig) : PluginConfig where
  semicolons := patch.semicolons.getD base.semicolons
  quotes := patch.quotes.getD base.quotes

end PluginPatch

namespace Patch

/-- One pair of patches laid over another. -/
def atop (upper lower : Patch) : Patch where
  global := upper.global.atop lower.global
  plugin := upper.plugin.atop lower.plugin

/-- The patch of a stack of layers, the uppermost first. -/
def ofLayers : List Patch → Patch
  | [] => {}
  | layer :: layers => layers.foldl atop layer

end Patch

end FormatterHost
