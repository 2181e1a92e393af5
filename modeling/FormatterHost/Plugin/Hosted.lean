import FormatterHost.Bytes.Sha256
import FormatterHost.Guest.Basic
import FormatterHost.Plugin.Info
import FormatterHost.Plugin.Limits

/-!
# Plugins on a runtime

A plugin is an instance of a module that exports a linear memory and all functions of the protocol.
This is checked when it is loaded: first the memory, then the functions in their order, each for its
presence and for its type.  The functions that are found then are the ones that are called later.
-/

namespace FormatterHost

open Wasm (ExternType FunctionType Instance Runtime Value)

/-- Whether a type is the one that a plugin must give the function. -/
def Export.accepts (callee : Export) (type : FunctionType) : Bool :=
  let paramsFit := type.params.length = callee.paramCount && type.params.all (· = .i32)
  let resultsFit :=
    if callee.hasResult then type.results.length = 1 && type.results.all (· = .i32)
    else type.results.length = 0
  paramsFit && resultsFit

/-- What is known of a module, given its bytes and its exports. -/
def ModuleInfo.ofModule (bytes : Bytes) (exports : List (String × ExternType)) : ModuleInfo where
  digest := (Sha256.digest bytes).toHex
  sizeBytes := UInt64.ofNat bytes.length
  exports := exports.filterMap fun
    | (name, .function _) => some name
    | (name, .memory _) => some name
    | _ => none

/-- A plugin that has been loaded. -/
structure HostedPlugin (runtime : Runtime) where
  live : Instance runtime.Rest
  limits : StoreLimits
  /-- The index of the memory that the host reads and writes. -/
  memory : Nat
  /-- The functions of the protocol. -/
  functions : List (Export × runtime.Function)
  info : ModuleInfo

namespace HostedPlugin

variable {runtime : Runtime}

/-- A function of the protocol, if an instance has it with the right type. -/
def resolveIn (live : Instance runtime.Rest) (callee : Export) : Except Failure runtime.Function :=
  match runtime.function? live callee.name with
  | none => .error (.missingExport callee.name)
  | some function =>
    if callee.accepts (runtime.typeOf function) then .ok function
    else .error (.signatureMismatch callee.name callee.signature)

/-- Resolves functions of the protocol one after another. -/
def resolveAll (live : Instance runtime.Rest) :
    List Export → Except Failure (List (Export × runtime.Function))
  | [] => .ok []
  | callee :: callees =>
    match resolveIn live callee with
    | .error failure => .error failure
    | .ok function =>
      match resolveAll live callees with
      | .error failure => .error failure
      | .ok functions => .ok ((callee, function) :: functions)

/-- Checks that an instance is a plugin. -/
def ofInstance (live : Instance runtime.Rest) (limits : StoreLimits) (info : ModuleInfo) :
    Except Failure (HostedPlugin runtime) :=
  match runtime.memory? live Export.memoryName with
  | none => .error (.missingExport Export.memoryName)
  | some memory =>
    match resolveAll live Export.all with
    | .error failure => .error failure
    | .ok functions => .ok { live, limits, memory, functions, info }

/-- Brings a module to life, with stubs for functions that nobody provides if the options say so. -/
def instantiate (engine : runtime.Engine) (m : runtime.Module) (options : PluginOptions) :
    Except String (Instance runtime.Rest) :=
  let linker := runtime.newLinker engine
  let linked := if options.trapUnknownImports then runtime.stubImports linker m else .ok linker
  match linked with
  | .error detail => .error detail
  | .ok linker => runtime.instantiate linker options.storeLimits.limiter m

/-- Loads a plugin from the bytes of its module. -/
def ofBytes (runtime : Runtime) (bytes : Bytes) (options : PluginOptions) :
    Except Failure (HostedPlugin runtime) :=
  match runtime.createEngine options.engineSettings with
  | .error detail => .error (.internal ("Failed to create engine: " ++ detail))
  | .ok engine =>
    match runtime.compile engine bytes with
    | .error detail => .error (.compilation detail)
    | .ok m =>
      match instantiate engine m options with
      | .error detail => .error (.instantiation detail)
      | .ok live => ofInstance live options.storeLimits (.ofModule bytes (runtime.exports m))

/-- The linear memory of a plugin. -/
def linearMemory (plugin : HostedPlugin runtime) : LinearMemory :=
  match plugin.live.memories[plugin.memory]? with
  | some cell => cell.memory
  | none => .zeros 0

/-- The size of the linear memory in bytes. -/
def memorySize (plugin : HostedPlugin runtime) : Nat :=
  plugin.linearMemory.size

/-- The plugin with another content of its linear memory. -/
def setLinearMemory (plugin : HostedPlugin runtime) (memory : LinearMemory) :
    HostedPlugin runtime :=
  let memories := plugin.live.memories.modify plugin.memory ({ · with memory })
  { plugin with live := { plugin.live with memories } }

/-- Looks a function of the protocol up anew. -/
def resolve (plugin : HostedPlugin runtime) (callee : Export) : Except Failure runtime.Function :=
  resolveIn plugin.live callee

/-- Calls a function of the protocol.  After a trap the plugin can go on. -/
def call (callee : Export) (args : List Int32) : Exchange (HostedPlugin runtime) (Option Int32) :=
  fun plugin =>
    match plugin.functions.lookup callee with
    | none => (.error (.missingExport callee.name), plugin)
    | some function =>
      let places := if callee.hasResult then [.i32 0] else []
      let (outcome, live) := runtime.call plugin.limits.limiter function (args.map Value.ofInt32)
        places plugin.live
      let plugin := { plugin with live }
      match outcome with
      | .error detail => (.error (.execution callee.name detail), plugin)
      | .ok results => (.ok (results.head?.bind Value.int32?), plugin)

/-- Loaded plugins as guests. -/
def guest : Guest (HostedPlugin runtime) where
  call := call
  read offset length plugin := (plugin.linearMemory.read offset length, plugin)
  write offset bytes plugin :=
    match plugin.linearMemory.write offset bytes with
    | .ok memory => (.ok (), plugin.setLinearMemory memory)
    | .error failure => (.error failure, plugin)

end HostedPlugin

end FormatterHost
