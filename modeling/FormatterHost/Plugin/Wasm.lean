import FormatterHost.Plugin.Hosted
import FormatterHost.Wasm.Engine

/-!
# Plugins on the engine

The plugins that the host runs here.
-/

namespace FormatterHost

/-- A plugin on the engine. -/
abbrev WasmPlugin : Type :=
  HostedPlugin Wasm.engine

namespace WasmPlugin

/-- Loads a plugin from the bytes of its module. -/
abbrev ofBytes (bytes : Bytes) (options : PluginOptions) : Except Failure WasmPlugin :=
  HostedPlugin.ofBytes Wasm.engine bytes options

/-- Loaded plugins as guests. -/
abbrev guest : Guest WasmPlugin :=
  HostedPlugin.guest

end WasmPlugin

end FormatterHost
