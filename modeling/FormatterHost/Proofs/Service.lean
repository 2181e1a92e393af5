import Mathlib.Data.List.Forall2
import FormatterHost.Instance.Basic
import FormatterHost.Proofs.Request

/-!
# Serving

An instance serves one request after another until the process ends.  With a conforming plugin that
never happens: a plugin that keeps the protocol is not blamed for anything it makes of a text, and
every request has the outcome that its own configuration, path and text give it.
-/

namespace FormatterHost

/-! ## Failures without blame -/

/-- The ways in which a request fails although the plugin keeps the protocol. -/
inductive Blameless (request : Request) : Failure → Prop where
  | rejected (report : String) : Blameless request (.rejected report)
  | unexpectedStatus {code : Int32} (other : code ≠ 0 ∧ code ≠ 1 ∧ code ≠ 2) :
      Blameless request (.unexpectedStatus code)
  | trap (detail : String) : Blameless request (.trap "format" detail)
  | invalidUtf8 (detail : String) : Blameless request (.invalidUtf8 detail)
  | serialization (problem : String) (zero : request.patch.globalConfig.lineWidth = 0 ∨
        request.patch.globalConfig.indentWidth = 0) :
      Blameless request (.serialization "global" problem)
  | internal (detail : String) (long : Transport.maxPayload < (Utf8.encode request.path).length ∨
        Transport.maxPayload < (Utf8.encode request.text).length) :
      Blameless request (.internal detail)

theorem Blameless.not_isContractViolation {request : Request} {failure : Failure}
    (blameless : Blameless request failure) : failure.isContractViolation = false := by
  cases blameless <;> rfl

theorem Resolves.blameless {request : Request} {reply : Reply} {failure : Failure}
    (resolves : Resolves request.text reply (.error failure)) : Blameless request failure := by
  cases resolves with
  | rejected text => exact .rejected text
  | undecodable detail reported noText => exact .invalidUtf8 detail
  | unknown report other => exact .unexpectedStatus other
  | trapped detail => exact .trap detail

theorem Transport.internal_of_refusal {payload : Bytes} {failure : Failure}
    (refused : Transport.refusal? payload = some failure) :
    Transport.maxPayload < payload.length ∧ ∃ detail, failure = .internal detail := by
  rw [Transport.refusal?] at refused
  split at refused
  · exact ⟨‹_›, _, (Option.some.inj refused).symm⟩
  · cases refused

/-- A formatter may trap, answer with any number, and report anything: its outcomes blame nobody. -/
theorem Request.blameless_of_outcome {formatter : Formatter} {request : Request} {failure : Failure}
    (failed : request.outcome formatter = .error failure) : Blameless request failure := by
  rw [Request.outcome] at failed
  cases fine : request.patch.globalConfig.problem? with
  | some problem =>
      rw [fine] at failed
      cases failed
      exact .serialization problem (GlobalConfig.zero_of_problem fine)
  | none =>
      cases pathAccepted : Transport.refusal? (Utf8.encode request.path) with
      | some refusal =>
          rw [fine, pathAccepted] at failed
          cases failed
          obtain ⟨long, detail, rfl⟩ := Transport.internal_of_refusal pathAccepted
          exact .internal detail (.inl long)
      | none =>
          cases textAccepted : Transport.refusal? (Utf8.encode request.text) with
          | some refusal =>
              rw [fine, pathAccepted, textAccepted] at failed
              cases failed
              obtain ⟨long, detail, rfl⟩ := Transport.internal_of_refusal textAccepted
              exact .internal detail (.inr long)
          | none =>
              rw [fine, pathAccepted, textAccepted] at failed
              have resolves := resolves_outcome request.text (request.reply formatter)
              have replied : (request.reply formatter).outcome request.text = .error failure :=
                failed
              rw [replied] at resolves
              exact resolves.blameless

/-! ## Serving one request after another -/

section Serving

variable {σ : Type} {guest : Guest σ} {view : σ → Option PluginView} {formatter : Formatter}

/-- A failure that does not blame the plugin is told under every policy. -/
theorem Response.ofPolicy_eq {α : Type} (policy : ContractPolicy) {outcome : Except Failure α}
    (blameless : ∀ failure, outcome = .error failure → failure.isContractViolation = false) :
    Response.ofPolicy policy outcome = .answered outcome := by
  cases outcome with
  | ok value => rfl
  | error failure =>
      rw [ofPolicy, blameless failure rfl, Bool.false_and]
      rfl

/-- What a conforming plugin makes of a request is told under every policy. -/
theorem Response.ofPolicy_outcome (policy : ContractPolicy) (request : Request) :
    Response.ofPolicy policy (request.outcome formatter) = .answered (request.outcome formatter) :=
  ofPolicy_eq policy fun failure (failed : request.outcome formatter = .error failure) =>
    (Request.blameless_of_outcome failed).not_isContractViolation

namespace FormatterInstance

/-- Serves requests one after another, until the process ends. -/
def serve (guest : Guest σ) (inst : FormatterInstance σ) :
    List (Timing × Request) → List (Response Output) × FormatterInstance σ
  | [] => ([], inst)
  | (timing, request) :: batch =>
    match inst.format guest timing request with
    | (.terminated failure, inst) => ([.terminated failure], inst)
    | (.answered outcome, inst) =>
      let (responses, inst) := inst.serve guest batch
      (.answered outcome :: responses, inst)

/-- One request to a conforming plugin is answered, and the instance can go on as it is. -/
theorem format_answers (conforms : Conforms never guest view formatter)
    {inst : FormatterInstance σ} {p : PluginView} (seen : view inst.plugin = some p)
    (timing : Timing) (request : Request) :
    ∃ inst' p', inst.format guest timing request =
        (.answered ((inst.effective request).outcome formatter), inst') ∧
      view inst'.plugin = some p' ∧ inst'.defaults = inst.defaults := by
  obtain ⟨s', p', served, seen'⟩ :=
    (formatWith_settles conforms seen (inst.effective request)).exists_state
  have formatted : inst.format guest timing request =
      (.ofPolicy inst.policy ((inst.effective request).outcome formatter),
        { inst with
          plugin := s'
          metrics := inst.metrics.record timing.duration timing.now
            ((inst.effective request).outcome formatter) }) := by
    simp only [format, served]
  rw [Response.ofPolicy_outcome] at formatted
  exact ⟨_, p', formatted, seen', rfl⟩

/-- The instance of a conforming plugin answers every request, whatever came of the ones before it,
and never ends the process. -/
theorem serve_eq (conforms : Conforms never guest view formatter) {inst : FormatterInstance σ}
    {p : PluginView} (seen : view inst.plugin = some p) (batch : List (Timing × Request)) :
    (inst.serve guest batch).1 =
      batch.map fun entry => .answered ((inst.effective entry.2).outcome formatter) := by
  induction batch generalizing inst p with
  | nil => rfl
  | cons entry batch ih =>
      obtain ⟨inst', p', formatted, seen', same⟩ :=
        format_answers conforms seen entry.1 entry.2
      have effective : inst'.effective = inst.effective := by
        funext request
        rw [FormatterInstance.effective, FormatterInstance.effective, same]
      rw [List.map_cons, ← effective, ← ih seen', effective]
      simp only [serve, formatted]

end FormatterInstance

end Serving

/-- A conforming plugin is never blamed: its instance answers every request of a batch under every
policy, and a request only fails for one of the reasons that blame nobody. -/
theorem serve_never_blames {σ : Type} {guest : Guest σ} {view : σ → Option PluginView}
    {formatter : Formatter} (conforms : Conforms never guest view formatter)
    (inst : FormatterInstance σ) {p : PluginView} (seen : view inst.plugin = some p)
    (batch : List (Timing × Request)) :
    List.Forall₂ (fun entry response => ∃ outcome, response = Response.answered outcome ∧
        ∀ failure, outcome = .error failure →
          failure.isContractViolation = false ∧ Blameless (inst.effective entry.2) failure)
      batch (inst.serve guest batch).1 := by
  rw [FormatterInstance.serve_eq conforms seen, List.forall₂_map_right_iff, List.forall₂_same]
  intro entry _
  refine ⟨_, rfl, fun failure failed => ?_⟩
  have blameless := Request.blameless_of_outcome failed
  exact ⟨blameless.not_isContractViolation, blameless⟩

/-- An instance that ends the process if its plugin is to blame. -/
def FormatterInstance.strict : FormatterInstance ScriptedPlugin where
  identity := ""
  plugin := .accenting
  policy := .terminate

/-- A request that leaves no room for text. -/
def Request.cramped : Request :=
  { Request.sample with patch := { global := { lineWidth := some 0 } } }

theorem serve_never_blames_sample :
    List.Forall₂ (fun entry response => ∃ outcome, response = Response.answered outcome ∧
        ∀ failure, outcome = .error failure → failure.isContractViolation = false ∧
          Blameless (FormatterInstance.strict.effective entry.2) failure)
      [(Timing.mk 1 1, Request.cramped), (Timing.mk 1 2, Request.sample)]
      (FormatterInstance.strict.serve ScriptedPlugin.guest
        [(Timing.mk 1 1, Request.cramped), (Timing.mk 1 2, Request.sample)]).1 :=
  serve_never_blames (ScriptedPlugin.conforms ScriptedPlugin.moderate_accenting) .strict
    (ScriptedPlugin.view_of_usable .accenting (by decide)) _

end FormatterHost
