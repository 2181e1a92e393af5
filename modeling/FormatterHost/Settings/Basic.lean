import FormatterHost.Config.Schemas
import FormatterHost.Plugin.Options

/-!
# Host settings

Everything that is needed to set up the formatter of a process.
-/

namespace FormatterHost

/-- The settings of a host. -/
structure HostSettings where
  /-- The file that holds the plugin module. -/
  pluginPath : Option String := none
  options : PluginOptions := {}
  /-- The patch that lies beneath that of every request. -/
  defaults : Patch := {}
deriving Repr, DecidableEq

namespace HostSettings

def recordType : RecordType HostSettings where
  title := "BridgeSettings"
  blank := {}
  fields := [
    .defaulted "plugin_path" (.option .string) pluginPath
      fun value s => { s with pluginPath := value },
    .defaulted "runtime" PluginOptions.schema options fun value s => { s with options := value },
    .defaulted "defaults" Patch.schema defaults fun value s => { s with defaults := value }]

def schema : Schema HostSettings :=
  recordType.schema

end HostSettings

end FormatterHost
