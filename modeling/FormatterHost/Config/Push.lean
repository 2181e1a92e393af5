import FormatterHost.Config.Schemas
import FormatterHost.Transport.Basic

/-!
# Sending the configuration

Every request sends both configurations: the documented defaults with the patch of the request
applied to them.  A global configuration that no plugin can honour stops the request before anything
is sent.
-/

namespace FormatterHost

namespace Scope

/-- The export that makes the bytes just sent the configuration of the scope. -/
def commitExport : Scope → Export
  | global => .setGlobalConfig
  | plugin => .setPluginConfig

end Scope

namespace Patch

/-- The complete global configuration of a request. -/
def globalConfig (patch : Patch) : GlobalConfig :=
  patch.global.applyTo {}

/-- The complete plugin configuration of a request. -/
def pluginConfig (patch : Patch) : PluginConfig :=
  patch.plugin.applyTo {}

end Patch

namespace Config

variable {σ : Type}

/-- Sends the text of a configuration and commits it. -/
def commit (guest : Guest σ) (scope : Scope) (text : String) : Exchange σ Unit := do
  Transport.sendText guest text
  guest.callUnit scope.commitExport []

/-- Sends the global configuration, then that of the plugin. -/
def push (guest : Guest σ) (patch : Patch) : Exchange σ Unit :=
  match patch.globalConfig.problem? with
  | some problem => .fail (.serialization Scope.global.name problem)
  | none => do
    commit guest .global (GlobalConfig.schema.print patch.globalConfig)
    commit guest .plugin (PluginConfig.schema.print patch.pluginConfig)

end Config

end FormatterHost
