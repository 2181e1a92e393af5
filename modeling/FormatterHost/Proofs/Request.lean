import FormatterHost.Format.Invocation
import FormatterHost.Proofs.Config
import FormatterHost.Proofs.Transport

/-!
# Requests to conforming plugins

A conforming plugin is told both configurations, the path and the text exactly as they are, and its
reply decides what the request comes to.  Nothing else of the plugin's past matters: each of the
four is replaced before the plugin formats.
-/

namespace FormatterHost

/-! ## Requests as single conversations -/

namespace Invocation

variable {σ : Type}

/-- What a request and a plugin have to say to each other. -/
def conversation (guest : Guest σ) (request : Request) : Exchange σ Output := do
  guest.callUnit .resetConfig []
  Config.push guest request.patch
  let verdict ← submit guest request.path request.text
  collect guest request.text verdict

/-- At the stage that it expects, a conversation goes as it would without stages. -/
theorem advance_of_ok {α : Type} {expected : Stage} {next : α → Stage} {x : Exchange σ α}
    {s s' : σ} {value : α} (ran : x s = (.ok value, s')) :
    advance expected next x ⟨s, expected⟩ = (.ok value, ⟨s', next value⟩) := by
  rw [advance, if_pos rfl]
  simp only [ran]

theorem advance_of_error {α : Type} {expected : Stage} {next : α → Stage} {x : Exchange σ α}
    {s s' : σ} {failure : Failure} (ran : x s = (.error failure, s')) :
    advance expected next x ⟨s, expected⟩ = (.error failure, ⟨s', expected⟩) := by
  rw [advance, if_pos rfl]
  simp only [ran]

end Invocation

/-- Every step of a request finds the stage that it expects. -/
theorem formatWith_eq {σ : Type} (guest : Guest σ) (request : Request) :
    formatWith guest request = Invocation.conversation guest request := by
  funext s
  rw [Invocation.conversation, ← bind_assoc, formatWith, Invocation.run]
  cases configured : (do
      guest.callUnit .resetConfig []
      Config.push guest request.patch : Exchange σ Unit) s with
  | mk outcome s₁ =>
      cases outcome with
      | error failure =>
          have applied : Invocation.applyConfig guest request.patch (.start s) =
              (.error failure, ⟨s₁, .idle⟩) := Invocation.advance_of_error configured
          rw [Exchange.bind_of_error applied, Exchange.bind_of_error configured]
      | ok _ =>
          have applied : Invocation.applyConfig guest request.patch (.start s) =
              (.ok (), ⟨s₁, .configured⟩) := Invocation.advance_of_ok configured
          rw [Exchange.bind_of_ok applied, Exchange.bind_of_ok configured]
          cases submitted : Invocation.submit guest request.path request.text s₁ with
          | mk outcome s₂ =>
              cases outcome with
              | error failure =>
                  have invoked : Invocation.invoke guest request.path request.text
                      ⟨s₁, .configured⟩ = (.error failure, ⟨s₂, .configured⟩) :=
                    Invocation.advance_of_error submitted
                  rw [Exchange.bind_of_error invoked, Exchange.bind_of_error submitted]
              | ok verdict =>
                  have invoked : Invocation.invoke guest request.path request.text
                      ⟨s₁, .configured⟩ = (.ok verdict, ⟨s₂, .invoked verdict⟩) :=
                    Invocation.advance_of_ok submitted
                  rw [Exchange.bind_of_ok invoked, Exchange.bind_of_ok submitted]
                  rfl

/-! ## What requests come to -/

section Settles

variable {σ α β : Type} {view : σ → Option PluginView} {mishap : σ → Prop}

/-- The conversation `x`, begun in `s`, comes to `outcome` or slips; the plugin can be seen
afterwards in either case. -/
def Settles (view : σ → Option PluginView) (mishap : σ → Prop) (x : Exchange σ α) (s : σ)
    (outcome : Except Failure α) : Prop :=
  x.Ends s (fun value s' => outcome = .ok value ∧ ∃ p, view s' = some p)
    (fun failure s' => (outcome = .error failure ∨ mishap s') ∧ ∃ p, view s' = some p)

namespace Settles

variable {x : Exchange σ α} {f : α → Exchange σ β} {s : σ} {p : PluginView}

theorem ofExcept {outcome : Except Failure α} (seen : view s = some p) :
    Settles view mishap (Exchange.ofExcept outcome) s outcome := by
  cases outcome with
  | ok value => exact .of_ok rfl ⟨rfl, p, seen⟩
  | error failure => exact .of_error rfl ⟨.inl rfl, p, seen⟩

theorem fail {failure : Failure} (seen : view s = some p) :
    Settles view mishap (Exchange.fail failure : Exchange σ α) s (.error failure) :=
  ofExcept seen

theorem pure {value : α} (seen : view s = some p) :
    Settles view mishap (Pure.pure value) s (.ok value) :=
  ofExcept seen

/-- Nothing follows a failure. -/
theorem fail_bind {failure : Failure} (seen : view s = some p) :
    Settles view mishap (Exchange.fail failure >>= f) s (.error failure) :=
  Exchange.Ends.bind (.fail ⟨.inl rfl, p, seen⟩)

/-- A conversation that is followed by one whose outcome is known. -/
theorem andThen {good : α → PluginView → Prop} {lost : PluginView → Prop}
    {outcome : Except Failure β} (first : Leads view mishap x s good lost)
    (second : ∀ value s' p, view s' = some p → good value p →
      Settles view mishap (f value) s' outcome) :
    Settles view mishap (x >>= f) s outcome := by
  refine Exchange.Ends.andThen first ?_ ?_
  · rintro value s' ⟨p, seen, holds⟩
    exact second value s' p seen holds
  · rintro failure s' ⟨slip, p, seen, -⟩
    exact ⟨.inr slip, p, seen⟩

/-- Where nothing slips, the outcome is the one stated. -/
theorem exists_state {outcome : Except Failure α} (settles : Settles view never x s outcome) :
    ∃ s' p, x s = (outcome, s') ∧ view s' = some p := by
  cases run : x s with
  | mk reached s' =>
      cases reached with
      | ok value =>
          obtain ⟨rfl, p, seen⟩ := Exchange.Ends.good_of_ok settles run
          exact ⟨s', p, rfl, seen⟩
      | error failure =>
          obtain ⟨rfl | impossible, p, seen⟩ := Exchange.Ends.bad_of_error settles run
          · exact ⟨s', p, rfl, seen⟩
          · cases impossible

end Settles

end Settles

/-! ## Outcomes by formatter -/

/-- Why a payload cannot be sent, if it cannot. -/
def Transport.refusal? (payload : Bytes) : Option Failure :=
  if maxPayload < payload.length then
    some (.internal s!"payload of {payload.length} bytes exceeds the guest's addressable length")
  else none

/-- What a text comes to when a plugin replies to it. -/
def Reply.outcome (submitted : String) : Reply → Except Failure Output
  | .answered code report =>
    if code = Verdict.unchangedCode then .ok ⟨submitted, .unchanged⟩
    else if code = Verdict.formattedCode then
      (Transport.asText report).bind fun text => .ok ⟨text, .formatted⟩
    else if code = Verdict.erroredCode then
      (Transport.asText report).bind fun text => .error (.rejected text)
    else .error (.unexpectedStatus code)
  | .trapped detail => .error (.trap Export.format.name detail)

namespace Request

/-- The reply that a formatter gives to a request. -/
def reply (formatter : Formatter) (request : Request) : Reply :=
  formatter request.path (GlobalConfig.schema.print request.patch.globalConfig)
    (PluginConfig.schema.print request.patch.pluginConfig) request.text

/-- What a request comes to by a formatter. -/
def outcome (formatter : Formatter) (request : Request) : Except Failure Output :=
  match request.patch.globalConfig.problem?, Transport.refusal? (Utf8.encode request.path),
    Transport.refusal? (Utf8.encode request.text) with
  | some problem, _, _ => .error (.serialization Scope.global.name problem)
  | none, some failure, _ => .error failure
  | none, none, some failure => .error failure
  | none, none, none => (request.reply formatter).outcome request.text

end Request

section Stages

variable {σ α : Type} {view : σ → Option PluginView} {mishap : σ → Prop} {guest : Guest σ}
variable {formatter : Formatter} {s : σ} {p : PluginView}

/-- A text that is sent and committed is kept, whatever else is. -/
theorem tell_leads (conforms : Conforms mishap guest view formatter) (seen : view s = some p)
    (slot : Slot) {text : String} (short : (Utf8.encode text).length ≤ Transport.maxPayload) :
    Leads view mishap (do
        Transport.sendText guest text
        guest.callUnit slot.callee []) s
      (fun _ p' => p'.kept = p.kept.put text slot) (fun _ => True) := by
  refine .andThen (send_leads conforms.toSharesBytes seen short) ?_ fun _ _ => trivial
  rintro _ s' p' seen' ⟨shared, kept⟩
  rw [← kept]
  exact (Leads.callUnit (conforms.keep s' p' seen' slot text shared)).mono (fun _ _ put => put)
    fun _ _ => trivial

/-- Two configurations that are sent and committed replace both that were kept. -/
theorem commit_leads (conforms : Conforms mishap guest view formatter) (seen : view s = some p)
    {global own : String} (short : (Utf8.encode global).length ≤ Transport.maxPayload)
    (ownShort : (Utf8.encode own).length ≤ Transport.maxPayload) :
    Leads view mishap (do
        Config.commit guest .global global
        Config.commit guest .plugin own) s
      (fun _ p' => p'.kept = ⟨some global, some own, p.kept.path⟩) (fun _ => True) := by
  refine .andThen (tell_leads conforms seen (.config .global) short) ?_ fun _ _ => trivial
  intro _ s' p' seen' kept
  have told := tell_leads conforms seen' (.config .plugin) ownShort
  rw [kept] at told
  exact told

theorem push_leads (conforms : Conforms mishap guest view formatter) (seen : view s = some p)
    {patch : Patch} (fine : patch.globalConfig.problem? = none) :
    Leads view mishap (Config.push guest patch) s
      (fun _ p' => p'.kept = ⟨some (GlobalConfig.schema.print patch.globalConfig),
        some (PluginConfig.schema.print patch.pluginConfig), p.kept.path⟩) (fun _ => True) := by
  rw [Config.push, fine]
  exact commit_leads conforms seen (GlobalConfig.length_encode_print_le _)
    (PluginConfig.length_encode_print_le _)

/-- The length of a report is told truthfully, and the report is staged then. -/
theorem stagedLength_leads (conforms : Conforms mishap guest view formatter)
    (seen : view s = some p) (short : p.report.length ≤ Transport.maxPayload) {callee : Export}
    (reports : callee = .getFormattedText ∨ callee = .getErrorText) :
    Leads view mishap (Verdict.stagedLength guest callee) s
      (fun length p' => length.toNat = p.report.length ∧ p'.shared = p.report) (· = p) := by
  refine .andThen (.callInt (conforms.announce s p seen short callee reports)) ?_
    fun _ same => same
  rintro length s' p' seen' ⟨rfl, shared⟩
  have counted := toInt_ofNat_of_le short
  have nonneg : 0 ≤ Int32.ofNat p.report.length := by
    rw [Int32.le_iff_toInt_le, counted]
    exact Int.natCast_nonneg _
  rw [if_pos nonneg]
  refine .pure seen' ⟨?_, shared⟩
  rw [toUInt32_of_nonneg (by omega), counted, Int.toNat_natCast]

/-- Whatever a report is for, it is fetched as the text that it is. -/
theorem fetch_settles (conforms : Conforms mishap guest view formatter) (seen : view s = some p)
    (short : p.report.length ≤ Transport.maxPayload) {callee : Export}
    (reports : callee = .getFormattedText ∨ callee = .getErrorText)
    (outcome : String → Except Failure α) :
    Settles view mishap (do
        let length ← Verdict.stagedLength guest callee
        let text ← Transport.receiveText guest length
        Exchange.ofExcept (outcome text)) s ((Transport.asText p.report).bind outcome) := by
  refine .andThen (stagedLength_leads conforms seen short reports) ?_
  rintro length s' p' seen' ⟨counted, shared⟩
  have there : length.toNat ≤ p'.shared.length := Nat.le_of_eq (by rw [counted, shared])
  have received := receive_leads conforms.toSharesBytes seen' there (by rw [counted]; exact short)
  rw [Transport.receiveText_eq, bind_assoc]
  refine .andThen received ?_
  rintro bytes s'' p'' seen'' ⟨rfl, -, -⟩
  rw [counted, shared, List.take_length]
  cases Transport.asText p.report with
  | ok text => exact .ofExcept seen''
  | error failure => exact .fail seen''

/-- What is told of a verdict decides what the request comes to. -/
theorem judge_settles (conforms : Conforms mishap guest view formatter) (seen : view s = some p)
    {submitted : String} {code : Int32} {report : Bytes}
    (reported : code = Verdict.formattedCode ∨ code = Verdict.erroredCode →
      p.report = report ∧ report.length ≤ Transport.maxPayload) :
    Settles view mishap (do
        let verdict ← Verdict.resolve guest code
        Invocation.collect guest submitted verdict) s
      ((Reply.answered code report).outcome submitted) := by
  rw [Verdict.resolve, Reply.outcome]
  by_cases unchanged : code = Verdict.unchangedCode
  · rw [if_pos unchanged, if_pos unchanged]
    exact .pure seen
  · rw [if_neg unchanged, if_neg unchanged]
    by_cases formatted : code = Verdict.formattedCode
    · obtain ⟨rfl, short⟩ := reported (.inl formatted)
      rw [if_pos formatted, if_pos formatted]
      simp only [bind_assoc, pure_bind]
      exact fetch_settles conforms seen short (.inl rfl) fun text => .ok (Output.mk text .formatted)
    · rw [if_neg formatted, if_neg formatted]
      by_cases errored : code = Verdict.erroredCode
      · obtain ⟨rfl, short⟩ := reported (.inr errored)
        rw [if_pos errored, if_pos errored]
        simp only [bind_assoc, pure_bind]
        exact fetch_settles conforms seen short (.inr rfl) fun text => .error (.rejected text)
      · rw [if_neg errored, if_neg errored]
        exact .fail seen

/-- A plugin that has been told everything replies by its formatter. -/
theorem consult_settles (conforms : Conforms mishap guest view formatter) (seen : view s = some p)
    {path globalConfig pluginConfig text : String}
    (kept : p.kept = ⟨some globalConfig, some pluginConfig, some path⟩)
    (shared : p.shared = Utf8.encode text)
    (short : (Utf8.encode text).length ≤ Transport.maxPayload) :
    Settles view mishap (do
        let code ← (guest.callInt .format []).mapFailure recoverTrap
        let verdict ← Verdict.resolve guest code
        Invocation.collect guest text verdict) s
      ((formatter path globalConfig pluginConfig text).outcome text) := by
  have formatted := conforms.format s p seen path globalConfig pluginConfig text kept shared short
  refine Exchange.Ends.bind (Exchange.Ends.mapFailure (Guest.callInt_ends (formatted.mono ?_ ?_)))
  · rintro answer s' ⟨code, report, p', replied, rfl, seen', reported⟩
    refine ⟨code, rfl, ?_⟩
    rw [replied]
    exact judge_settles conforms seen' reported
  · rintro failure s' (⟨detail, p', replied, rfl, seen'⟩ | ⟨slip, seen'⟩)
    · rw [replied]
      exact ⟨.inl rfl, p', seen'⟩
    · exact ⟨.inr slip, p, seen'⟩

/-- A payload that no plugin can count is refused before anything is said. -/
theorem send_of_refusal {payload : Bytes} {failure : Failure}
    (refused : Transport.refusal? payload = some failure) :
    Transport.send guest payload = Exchange.fail failure := by
  rw [Transport.refusal?] at refused
  split at refused
  · rename_i long
    rw [Transport.send, if_pos long, Option.some.inj refused]
  · cases refused

theorem length_le_of_refusal {payload : Bytes} (accepted : Transport.refusal? payload = none) :
    payload.length ≤ Transport.maxPayload := by
  rw [Transport.refusal?] at accepted
  split at accepted
  · cases accepted
  · rename_i short
    exact Nat.not_lt.mp short

/-- A plugin that knows both configurations gives its reply once it has been told the rest. -/
theorem submit_settles (conforms : Conforms mishap guest view formatter) (seen : view s = some p)
    {globalConfig pluginConfig : String} {keptPath : Option String}
    (kept : p.kept = ⟨some globalConfig, some pluginConfig, keptPath⟩) {path text : String}
    (pathAccepted : Transport.refusal? (Utf8.encode path) = none)
    (textAccepted : Transport.refusal? (Utf8.encode text) = none) :
    Settles view mishap (do
        let verdict ← Invocation.submit guest path text
        Invocation.collect guest text verdict) s
      ((formatter path globalConfig pluginConfig text).outcome text) := by
  have told := tell_leads conforms seen .path (length_le_of_refusal pathAccepted)
  rw [kept] at told
  have short := length_le_of_refusal textAccepted
  simp only [Invocation.submit, bind_assoc]
  -- Sending the path and having it kept are one step.
  rw [← bind_assoc]
  refine .andThen told ?_
  intro _ s₁ p₁ seen₁ kept₁
  refine .andThen (send_leads conforms.toSharesBytes seen₁ short) ?_
  rintro _ s₂ p₂ seen₂ ⟨shared, kept₂⟩
  exact consult_settles conforms seen₂ (kept₂.trans kept₁) shared short

/-- A request to a conforming plugin comes to what its formatter says, or it slips. -/
theorem formatWith_settles (conforms : Conforms mishap guest view formatter)
    (seen : view s = some p) (request : Request) :
    Settles view mishap (formatWith guest request) s (request.outcome formatter) := by
  rw [formatWith_eq, Invocation.conversation, Request.outcome]
  refine .andThen (.callUnit (conforms.reset s p seen)) ?_
  intro _ s₁ p₁ seen₁ kept₁
  cases fine : request.patch.globalConfig.problem? with
  | some problem =>
      rw [Config.push, fine]
      exact .fail_bind seen₁
  | none =>
      refine .andThen (push_leads conforms seen₁ fine) ?_
      intro _ s₂ p₂ seen₂ kept₂
      cases pathAccepted : Transport.refusal? (Utf8.encode request.path) with
      | some failure =>
          rw [Invocation.submit, Transport.sendText, send_of_refusal pathAccepted, bind_assoc]
          exact .fail_bind seen₂
      | none =>
          cases textAccepted : Transport.refusal? (Utf8.encode request.text) with
          | some failure =>
              have told := tell_leads conforms seen₂ .path (length_le_of_refusal pathAccepted)
              simp only [Invocation.submit, bind_assoc]
              rw [← bind_assoc]
              refine .andThen told ?_
              intro _ s₃ p₃ seen₃ _
              rw [Transport.sendText, send_of_refusal textAccepted]
              exact .fail_bind seen₃
          | none => exact submit_settles conforms seen₂ kept₂ pathAccepted textAccepted

end Stages

/-! ## Correctness -/

/-- What a text comes to, by the reply to it. -/
inductive Resolves (submitted : String) : Reply → Except Failure Output → Prop where
  | unchanged (report : Bytes) :
      Resolves submitted (.answered 0 report) (.ok ⟨submitted, .unchanged⟩)
  | formatted (text : String) :
      Resolves submitted (.answered 1 (Utf8.encode text)) (.ok ⟨text, .formatted⟩)
  | rejected (text : String) :
      Resolves submitted (.answered 2 (Utf8.encode text)) (.error (.rejected text))
  | undecodable {code : Int32} {report : Bytes} (detail : String)
      (reported : code = 1 ∨ code = 2) (noText : ∀ text, report ≠ Utf8.encode text) :
      Resolves submitted (.answered code report) (.error (.invalidUtf8 detail))
  | unknown {code : Int32} (report : Bytes) (other : code ≠ 0 ∧ code ≠ 1 ∧ code ≠ 2) :
      Resolves submitted (.answered code report) (.error (.unexpectedStatus code))
  | trapped (detail : String) :
      Resolves submitted (.trapped detail) (.error (.trap "format" detail))

/-- What a request comes to by a formatter: without positive widths it is refused, and otherwise the
formatter is given the path, the texts from which both complete configurations are read back, and
the text. -/
inductive Fulfils (formatter : Formatter) (request : Request) : Except Failure Output → Prop where
  | refused {problem : String} (known : request.patch.globalConfig.problem? = some problem)
      (zero : request.patch.globalConfig.lineWidth = 0 ∨
        request.patch.globalConfig.indentWidth = 0) :
      Fulfils formatter request (.error (.serialization "global" problem))
  | replied {globalText pluginText : String} {outcome : Except Failure Output}
      (positive : request.patch.globalConfig.lineWidth ≠ 0 ∧
        request.patch.globalConfig.indentWidth ≠ 0)
      (global : GlobalConfig.schema.print request.patch.globalConfig = globalText)
      (globalRead : GlobalConfig.schema.parse globalText = .ok request.patch.globalConfig)
      (plugin : PluginConfig.schema.print request.patch.pluginConfig = pluginText)
      (pluginRead : PluginConfig.schema.parse pluginText = .ok request.patch.pluginConfig)
      (resolves : Resolves request.text
        (formatter request.path globalText pluginText request.text) outcome) :
      Fulfils formatter request outcome

/-- Reports are texts as a whole or not at all. -/
theorem resolves_outcome (submitted : String) (reply : Reply) :
    Resolves submitted reply (reply.outcome submitted) := by
  cases reply with
  | trapped detail => exact .trapped detail
  | answered code report =>
      rw [Reply.outcome]
      by_cases unchanged : code = Verdict.unchangedCode
      · subst unchanged
        exact .unchanged report
      · rw [if_neg unchanged]
        by_cases formatted : code = Verdict.formattedCode
        · subst formatted
          rw [if_pos rfl]
          rcases Transport.asText_split report with ⟨text, rfl, read⟩ | ⟨noText, detail, failed⟩
          · rw [read]
            exact .formatted text
          · rw [failed]
            exact .undecodable detail (.inl rfl) noText
        · rw [if_neg formatted]
          by_cases errored : code = Verdict.erroredCode
          · subst errored
            rw [if_pos rfl]
            rcases Transport.asText_split report with ⟨text, rfl, read⟩ | ⟨noText, detail, failed⟩
            · rw [read]
              exact .rejected text
            · rw [failed]
              exact .undecodable detail (.inr rfl) noText
          · rw [if_neg errored]
            exact .unknown report ⟨unchanged, formatted, errored⟩

theorem refusal_of_length_le {payload : Bytes} (short : payload.length ≤ Transport.maxPayload) :
    Transport.refusal? payload = none :=
  if_neg (Nat.not_lt.mpr short)

theorem fulfils_outcome (formatter : Formatter) {request : Request}
    (pathShort : (Utf8.encode request.path).length ≤ Transport.maxPayload)
    (textShort : (Utf8.encode request.text).length ≤ Transport.maxPayload) :
    Fulfils formatter request (request.outcome formatter) := by
  rw [Request.outcome, refusal_of_length_le pathShort, refusal_of_length_le textShort]
  cases known : request.patch.globalConfig.problem? with
  | some problem => exact .refused known (GlobalConfig.zero_of_problem known)
  | none =>
      exact .replied ((GlobalConfig.problem?_eq_none_iff _).mp known) rfl
        (GlobalConfig.schema_faithful.parse_print _) rfl
        (PluginConfig.schema_faithful.parse_print _) (resolves_outcome _ _)

/-- A conforming plugin in any state serves every request whose path and text it can count, and the
outcome is the one that its formatter stands for. -/
theorem formatWith_fulfils {σ : Type} {guest : Guest σ} {view : σ → Option PluginView}
    {formatter : Formatter} {s : σ} {p : PluginView}
    (conforms : Conforms never guest view formatter) (seen : view s = some p) (request : Request)
    (pathShort : (Utf8.encode request.path).length ≤ Transport.maxPayload)
    (textShort : (Utf8.encode request.text).length ≤ Transport.maxPayload) :
    ∃ outcome s' p', formatWith guest request s = (outcome, s') ∧ view s' = some p' ∧
      Fulfils formatter request outcome := by
  obtain ⟨s', p', served, seen'⟩ := (formatWith_settles conforms seen request).exists_state
  exact ⟨_, s', p', served, seen', fulfils_outcome formatter pathShort textShort⟩

/-- A plugin that accents every text, with a buffer that holds a single byte. -/
def ScriptedPlugin.accenting : ScriptedPlugin :=
  { ScriptedPlugin.narrow with rules := [⟨.always, .formatted [0xC3, 0xA9]⟩] }

theorem ScriptedPlugin.moderate_accenting : Moderate accenting.rules := by
  intro path globalConfig pluginConfig text code report _ replied
  cases replied
  decide

def Request.sample : Request where
  path := "a.ts"
  text := "e"

theorem formatWith_fulfils_sample :
    ∃ outcome s' p', formatWith ScriptedPlugin.guest .sample .accenting = (outcome, s') ∧
      ScriptedPlugin.view ScriptedPlugin.accenting.rules s' = some p' ∧
      Fulfils (ScriptedPlugin.formatter ScriptedPlugin.accenting.rules) .sample outcome :=
  formatWith_fulfils (ScriptedPlugin.conforms ScriptedPlugin.moderate_accenting)
    (ScriptedPlugin.view_of_usable .accenting (by decide)) .sample
    (Nat.le_trans (Utf8.length_encode_le _) (by decide))
    (Nat.le_trans (Utf8.length_encode_le _) (by decide))

end FormatterHost
