import FormatterHost.Instance.Basic
import FormatterHost.Settings.Basic

/-!
# The instance of a process

A process has at most one instance that everybody in it shares.  It is made once, stays until the
process ends, and no attempt that fails leaves anything behind.
-/

namespace FormatterHost

/-- The shared instance, if it has been made. -/
structure Registry where
  shared : Option (FormatterInstance WasmPlugin) := none

namespace Registry

/-- Makes the shared instance from the bytes of a module, with the patch beneath all requests.  A
module that breaks the protocol is dealt with as the options demand. -/
def install (registry : Registry) (identity : String) (bytes : Bytes) (options : PluginOptions)
    (defaults : Patch) : Response Unit × Registry :=
  match registry.shared with
  | some _ => (.answered (.error .alreadyInitialized), registry)
  | none =>
    match FormatterInstance.ofBytes identity bytes options with
    | .ok inst => (.answered (.ok ()), ⟨some { inst with defaults }⟩)
    | .error failure => (.ofPolicy options.contractPolicy (.error failure), registry)

/-- Makes the shared instance from the bytes of a module. -/
def setUp (registry : Registry) (identity : String) (bytes : Bytes) (options : PluginOptions) :
    Response Unit × Registry :=
  registry.install identity bytes options {}

/-- Makes the shared instance from settings; `readFile` fetches the module they name. -/
def setUpFromSettings (registry : Registry) (identity : String) (settings : HostSettings)
    (readFile : String → Except Failure Bytes) : Response Unit × Registry :=
  match settings.pluginPath with
  | none => (.answered (.error (.settings "plugin_path is not set")), registry)
  | some path =>
    match readFile path with
    | .error failure => (.answered (.error failure), registry)
    | .ok bytes => registry.install identity bytes settings.options settings.defaults

/-- The shared instance. -/
def get (registry : Registry) : Except Failure (FormatterInstance WasmPlugin) :=
  match registry.shared with
  | some inst => .ok inst
  | none => .error .notInitialized

/-- Serves a request with the shared instance. -/
def formatText (registry : Registry) (timing : Timing) (request : Request) :
    Response String × Registry :=
  match registry.shared with
  | none => (.answered (.error .notInitialized), registry)
  | some inst =>
    let (response, inst) := inst.formatText WasmPlugin.guest timing request
    (response, ⟨some inst⟩)

end Registry

end FormatterHost
