import FormatterHost.Instance.Registry
import FormatterHost.Proofs.Loading

/-!
# The life of the shared instance

A process calls for its shared instance in any order: it attempts to make it, with any module and
from anywhere, asks for it, and formats with it.  One attempt succeeds at most.  Until then nothing
is there, and no attempt spoils the next; from then on the instance stays, and nothing that an
attempt brings along is looked at, so that it cannot end the process any more.
-/

namespace FormatterHost

namespace Registry

/-! ## Calls -/

/-- The files of a process: the bytes of each, or why it cannot be read. -/
abbrev Disk :=
  String → Except (AccessKind × String) Bytes

/-- A call that concerns the shared instance. -/
inductive Call where
  | setUp (identity : String) (bytes : Bytes) (options : PluginOptions)
  | setUpFromSettings (identity : String) (settings : HostSettings) (disk : Disk)
  | get
  | formatText (timing : Timing) (request : Request)

/-- What a call that succeeds gives to its caller. -/
inductive Grant where
  | installed
  | handed (inst : FormatterInstance WasmPlugin)
  | formatted (text : String)

/-- Reads a file for the settings. -/
def Disk.read (disk : Disk) (path : String) : Except Failure Bytes :=
  (disk path).mapError fun (kind, detail) => .access kind detail

/-- What comes of a call, and the registry after it. -/
def Call.make : Call → Registry → Response Grant × Registry
  | setUp identity bytes options, registry =>
    let (response, registry) := registry.setUp identity bytes options
    (response.map fun _ => .installed, registry)
  | setUpFromSettings identity settings disk, registry =>
    let (response, registry) := registry.setUpFromSettings identity settings disk.read
    (response.map fun _ => .installed, registry)
  | get, registry => (.answered (registry.get.map .handed), registry)
  | formatText timing request, registry =>
    let (response, registry) := registry.formatText timing request
    (response.map .formatted, registry)

/-- A call with the registry before and after it. -/
structure Visit where
  call : Call
  before : Registry
  response : Response Grant
  after : Registry

/-- The visit that a call makes. -/
def Call.visit (call : Call) (registry : Registry) : Visit where
  call := call
  before := registry
  response := (call.make registry).1
  after := (call.make registry).2

/-- Whether the process has ended with the call. -/
def Visit.ends (visit : Visit) : Bool :=
  match visit.response with
  | .answered _ => false
  | .terminated _ => true

/-- An attempt to make the shared instance. -/
structure Attempt where
  identity : String
  /-- The bytes of the module, or why there are none. -/
  source : Except Failure Bytes
  options : PluginOptions
  defaults : Patch

/-- Where settings have the module from. -/
def Disk.source (disk : Disk) (settings : HostSettings) : Except Failure Bytes :=
  match settings.pluginPath with
  | none => .error (.settings "plugin_path is not set")
  | some path => disk.read path

end Registry

namespace Registry

/-- What comes of an attempt. -/
def Attempt.make (attempt : Attempt) (registry : Registry) : Response Grant × Registry :=
  match attempt.source with
  | .error failure => (.answered (.error failure), registry)
  | .ok bytes =>
    let (response, registry) :=
      registry.install attempt.identity bytes attempt.options attempt.defaults
    (response.map fun _ => .installed, registry)

namespace Visit

/-- The visit is one that the call makes. -/
def Lawful (visit : Visit) : Prop :=
  visit.call.make visit.before = (visit.response, visit.after)

end Visit

namespace Visit.Lawful

variable {visit : Visit}

end Visit.Lawful

/-! ## One call after another -/

end Registry

end FormatterHost
