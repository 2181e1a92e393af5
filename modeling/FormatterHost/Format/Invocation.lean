import FormatterHost.Config.Push
import FormatterHost.Format.Request
import FormatterHost.Format.Verdict

/-!
# Invocations

A request takes a plugin through four stages: *idle*; *configured*, when both configurations are
committed; *invoked*, when the plugin has given its verdict; and *resolved*.  Every request starts
idle, and resetting the configuration clears what an earlier request left behind.
-/

namespace FormatterHost

/-- How far a request has come. -/
inductive Stage where
  | idle
  | configured
  | invoked (verdict : Verdict)
  | resolved
deriving Repr, DecidableEq

/-- The text of a stage in messages. -/
def Stage.describe : Stage → String
  | idle => "Idle"
  | configured => "ConfigApplied"
  | invoked verdict => s!"Invoked({verdict.describe})"
  | resolved => "Resolved"

/-- A request under way: the plugin's state and the stage reached. -/
structure Invocation (σ : Type) where
  plugin : σ
  stage : Stage

/-- A trap while formatting is the fault of the text, not of the plugin. -/
def recoverTrap : Failure → Failure
  | .execution callee detail => .trap callee detail
  | failure => failure

namespace Invocation

variable {σ α : Type}

/-- An invocation at its beginning. -/
def start (plugin : σ) : Invocation σ :=
  ⟨plugin, .idle⟩

/-- A conversation with the plugin that leads from one stage to another.  At any other stage it is
refused, and if it fails the stage remains. -/
def advance (expected : Stage) (next : α → Stage) (x : Exchange σ α) : Exchange (Invocation σ) α :=
  fun s =>
    if s.stage = expected then
      match x s.plugin with
      | (.ok value, plugin) => (.ok value, ⟨plugin, next value⟩)
      | (.error failure, plugin) => (.error failure, ⟨plugin, s.stage⟩)
    else
      (.error (.internal
        s!"invocation in state {s.stage.describe}, expected {expected.describe}"), s)

/-- From idle to configured: resets the configuration, and sends the one that the patch gives. -/
def applyConfig (guest : Guest σ) (patch : Patch) : Exchange (Invocation σ) Unit :=
  advance .idle (fun _ => .configured) do
    guest.callUnit .resetConfig []
    Config.push guest patch

/-- The conversation about one text: its path, the text, and the plugin's verdict. -/
def submit (guest : Guest σ) (path text : String) : Exchange σ Verdict := do
  Transport.sendText guest path
  guest.callUnit .setFilePath []
  Transport.sendText guest text
  let code ← (guest.callInt .format []).mapFailure recoverTrap
  Verdict.resolve guest code

/-- From configured to invoked: submits a text. -/
def invoke (guest : Guest σ) (path text : String) : Exchange (Invocation σ) Verdict :=
  advance .configured .invoked (submit guest path text)

/-- What becomes of a verdict: the staged bytes are fetched, and an error report becomes a failure.
-/
def collect (guest : Guest σ) (submitted : String) : Verdict → Exchange σ Output
  | .unchanged => return ⟨submitted, .unchanged⟩
  | .formatted length => return ⟨← Transport.receiveText guest length, .formatted⟩
  | .errored length => do .fail (.rejected (← Transport.receiveText guest length))
  | .unknown code => .fail (.unexpectedStatus code)

/-- From invoked to resolved, whatever comes of it. -/
def resolve (guest : Guest σ) (submitted : String) : Exchange (Invocation σ) Output :=
  fun s =>
    match s.stage with
    | .invoked verdict =>
      let (outcome, plugin) := collect guest submitted verdict s.plugin
      (outcome, ⟨plugin, .resolved⟩)
    | stage => (.error (.internal s!"cannot resolve a result in state {stage.describe}"), s)

/-- All steps of a request. -/
def run (guest : Guest σ) (request : Request) : Exchange (Invocation σ) Output := do
  applyConfig guest request.patch
  let _ ← invoke guest request.path request.text
  resolve guest request.text

end Invocation

/-- Runs one request against a plugin. -/
def formatWith {σ : Type} (guest : Guest σ) (request : Request) : Exchange σ Output :=
  fun plugin =>
    let (outcome, s) := Invocation.run guest request (.start plugin)
    (outcome, s.plugin)

end FormatterHost
