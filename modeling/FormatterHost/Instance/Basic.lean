import FormatterHost.Format.Invocation
import FormatterHost.Instance.Metrics
import FormatterHost.Plugin.Wasm

/-!
# Formatter instances

An instance owns a plugin and serves requests one at a time.  Every request is counted; then, if the
plugin has broken the protocol, the contract policy decides whether the caller is told or the
process ends.
-/

namespace FormatterHost

/-- A plugin that serves requests. -/
structure FormatterInstance (σ : Type) where
  identity : String
  plugin : σ
  policy : ContractPolicy
  /-- The patch beneath that of every request. -/
  defaults : Patch := {}
  metrics : Metrics := {}

/-- What comes of a request to a process. -/
inductive Response (α : Type) where
  | answered (outcome : Except Failure α)
  /-- The process has ended because of a broken protocol. -/
  | terminated (failure : Failure)

namespace Response

/-- The same response with its value transformed. -/
def map {α β : Type} (f : α → β) : Response α → Response β
  | answered outcome => .answered (outcome.map f)
  | terminated failure => .terminated failure

/-- What the contract policy makes of an outcome. -/
def ofPolicy {α : Type} (policy : ContractPolicy) : Except Failure α → Response α
  | .ok value => .answered (.ok value)
  | .error failure =>
    if failure.isContractViolation && policy = .terminate then .terminated failure
    else .answered (.error failure)

end Response

/-- How long a request took, and when it was recorded. -/
structure Timing where
  duration : UInt64
  now : UInt64

namespace FormatterInstance

variable {σ : Type}

/-- The request that reaches the plugin: its patch lies over the defaults of the instance. -/
def effective (inst : FormatterInstance σ) (request : Request) : Request :=
  { request with patch := request.patch.atop inst.defaults }

/-- Serves a request. -/
def format (guest : Guest σ) (inst : FormatterInstance σ) (timing : Timing) (request : Request) :
    Response Output × FormatterInstance σ :=
  let (outcome, plugin) := formatWith guest (inst.effective request) inst.plugin
  let metrics := inst.metrics.record timing.duration timing.now outcome
  (.ofPolicy inst.policy outcome, { inst with plugin, metrics })

/-- Serves a request of which only the resulting text is wanted. -/
def formatText (guest : Guest σ) (inst : FormatterInstance σ) (timing : Timing)
    (request : Request) : Response String × FormatterInstance σ :=
  let (response, inst) := inst.format guest timing request
  (response.map Output.text, inst)

/-- An instance with a plugin loaded from the bytes of its module. -/
def ofBytes (identity : String) (bytes : Bytes) (options : PluginOptions) :
    Except Failure (FormatterInstance WasmPlugin) :=
  (WasmPlugin.ofBytes bytes options).map fun plugin =>
    { identity, plugin, policy := options.contractPolicy }

end FormatterInstance

end FormatterHost
