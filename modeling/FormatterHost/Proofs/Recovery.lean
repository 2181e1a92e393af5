import FormatterHost.Guest.Faulty
import FormatterHost.Proofs.Request

/-!
# Recovery from abandoned requests

A conforming plugin some of whose operations fail on their own still conforms, apart from slips.
However many requests have been abandoned half-way, the next one that is spared from slips comes to
what it would come to with any other plugin that formats alike.
-/

namespace FormatterHost

namespace Faulty

variable {σ : Type}

/-! ## The view since some time -/

/-- The latest operation was replaced, and it came after those of `base`. -/
def StruckSince (base : List Operation) (faulty : Faulty σ) : Prop :=
  ∃ operation earlier, faulty.attempts = operation :: earlier ∧ base <:+ earlier ∧
    { faulty with attempts := earlier }.replacement? operation ≠ none

/-- The view of a plugin with certain faults, after the operations of `base`. -/
def viewSince (faults : List InjectedFault) (base : List Operation)
    (view : σ → Option PluginView) (faulty : Faulty σ) : Option PluginView :=
  if faulty.faults = faults ∧ base <:+ faulty.attempts then view faulty.guest else none

section Views

variable {faults : List InjectedFault} {base : List Operation} {view : σ → Option PluginView}
variable {faulty : Faulty σ} {p : PluginView}

theorem viewSince_eq (same : faulty.faults = faults) (since : base <:+ faulty.attempts) :
    viewSince faults base view faulty = view faulty.guest :=
  if_pos ⟨same, since⟩

theorem of_viewSince (seen : viewSince faults base view faulty = some p) :
    faulty.faults = faults ∧ base <:+ faulty.attempts ∧ view faulty.guest = some p := by
  rw [viewSince] at seen
  split at seen
  · rename_i holds
    exact ⟨holds.1, holds.2, seen⟩
  · cases seen

/-- What is done to the plugin itself does not hide it. -/
theorem viewSince_carried (seen : viewSince faults base view faulty = some p)
    (operation : Operation) (guest : σ) :
    viewSince faults base view ⟨guest, faulty.faults, operation :: faulty.attempts⟩ =
      view guest := by
  obtain ⟨same, since, -⟩ := of_viewSince seen
  exact if_pos ⟨same, since.trans (List.suffix_cons operation faulty.attempts)⟩

theorem exists_failure (failing : ∀ fault ∈ faulty.faults, ∃ failure,
      fault.replacement = .failure failure) {operation : Operation} {replacement : Replacement}
    (struck : faulty.replacement? operation = some replacement) :
    ∃ failure, replacement = .failure failure := by
  rw [replacement?, Option.map_eq_some_iff] at struck
  obtain ⟨fault, found, rfl⟩ := struck
  exact failing fault (List.mem_of_find?_eq_some found)

variable (failing : ∀ fault ∈ faults, ∃ failure, fault.replacement = .failure failure)

include failing

/-- An operation that may be replaced ends as it would otherwise, or it slips. -/
theorem attempt_ends {α : Type} (seen : viewSince faults base view faulty = some p)
    (operation : Operation) (answer : Option Int32 → Bytes → α) {x : Exchange σ α}
    {good : α → σ → Prop} {bad : Failure → σ → Prop} (ends : x.Ends faulty.guest good bad) :
    (attempt operation answer x).Ends faulty
      (fun value after =>
        good value after.guest ∧ viewSince faults base view after = view after.guest)
      (fun failure after =>
        (bad failure after.guest ∧ viewSince faults base view after = view after.guest) ∨
          (StruckSince base after ∧ viewSince faults base view after = some p)) := by
  obtain ⟨same, since, seenGuest⟩ := of_viewSince seen
  subst same
  cases struck : faulty.replacement? operation with
  | some replacement =>
      obtain ⟨failure, rfl⟩ := exists_failure failing struck
      have failed : attempt operation answer x faulty =
          (.error failure, ⟨faulty.guest, faulty.faults, operation :: faulty.attempts⟩) := by
        simp only [attempt, struck]
      have latest : StruckSince base
          (⟨faulty.guest, faulty.faults, operation :: faulty.attempts⟩ : Faulty σ) := by
        refine ⟨operation, faulty.attempts, rfl, since, ?_⟩
        rw [struck]
        exact Option.some_ne_none _
      exact .of_error failed
        (.inr ⟨latest, (viewSince_carried seen operation faulty.guest).trans seenGuest⟩)
  | none =>
      cases run : x faulty.guest with
      | mk outcome guest =>
          have carried : attempt operation answer x faulty =
              (outcome, ⟨guest, faulty.faults, operation :: faulty.attempts⟩) := by
            simp only [attempt, struck, run]
          have sight := viewSince_carried seen operation guest
          cases outcome with
          | ok value => exact .of_ok carried ⟨ends.good_of_ok run, sight⟩
          | error failure => exact .of_error carried (.inl ⟨ends.bad_of_error run, sight⟩)

/-- An operation that leads somewhere still does, unless it slips. -/
theorem attempt_leads {α : Type} (seen : viewSince faults base view faulty = some p)
    (operation : Operation) (answer : Option Int32 → Bytes → α) {x : Exchange σ α}
    {good : α → PluginView → Prop} (leads : Leads view never x faulty.guest good (· = p)) :
    Leads (viewSince faults base view) (StruckSince base) (attempt operation answer x) faulty good
      (· = p) := by
  refine (attempt_ends failing seen operation answer leads).mono ?_ ?_
  · rintro value after ⟨⟨p', seen', holds⟩, same⟩
    exact ⟨p', same.trans seen', holds⟩
  · rintro failure after (⟨⟨impossible, -⟩, -⟩ | ⟨struck, seen'⟩)
    · cases impossible
    · exact ⟨struck, p, seen', rfl⟩

/-! ## Faulty guests conform -/

theorem sharesBytes {guest : Guest σ} (shares : SharesBytes never guest view) :
    SharesBytes (StruckSince base) guest.faulty (viewSince faults base view) where
  capacity _ _ seen :=
    attempt_leads failing seen _ _ (shares.capacity _ _ (of_viewSince seen).2.2)
  offset _ _ seen := attempt_leads failing seen _ _ (shares.offset _ _ (of_viewSince seen).2.2)
  read _ _ seen offset length fits :=
    attempt_leads failing seen _ _ (shares.read _ _ (of_viewSince seen).2.2 offset length fits)
  write _ _ seen offset bytes start le :=
    attempt_leads failing seen _ _ (shares.write _ _ (of_viewSince seen).2.2 offset bytes start le)
  clear _ _ seen total nonneg :=
    attempt_leads failing seen _ _ (shares.clear _ _ (of_viewSince seen).2.2 total nonneg)
  append _ _ seen count nonneg le room :=
    attempt_leads failing seen _ _
      (shares.append _ _ (of_viewSince seen).2.2 count nonneg le room)
  stage _ _ seen start count startNonneg nonneg le there :=
    attempt_leads failing seen _ _
      (shares.stage _ _ (of_viewSince seen).2.2 start count startNonneg nonneg le there)

/-- A conforming plugin with faults that only fail conforms, except that it slips where a fault
strikes. -/
theorem conforms {guest : Guest σ} {formatter : Formatter}
    (conforms : Conforms never guest view formatter) :
    Conforms (StruckSince base) guest.faulty (viewSince faults base view) formatter where
  toSharesBytes := sharesBytes failing conforms.toSharesBytes
  reset _ _ seen := attempt_leads failing seen _ _ (conforms.reset _ _ (of_viewSince seen).2.2)
  keep _ _ seen slot text shared :=
    attempt_leads failing seen _ _ (conforms.keep _ _ (of_viewSince seen).2.2 slot text shared)
  announce _ _ seen short callee reports :=
    attempt_leads failing seen _ _
      (conforms.announce _ _ (of_viewSince seen).2.2 short callee reports)
  format := by
    intro faulty p seen path globalConfig pluginConfig text kept shared short
    have ends := conforms.format _ _ (of_viewSince seen).2.2 path globalConfig pluginConfig text
      kept shared short
    refine (attempt_ends failing seen (.call .format) (fun value _ => value) ends).mono ?_ ?_
    · rintro answer after ⟨⟨code, report, p', replied, answered, seen', reported⟩, same⟩
      exact ⟨code, report, p', replied, answered, same.trans seen', reported⟩
    · rintro failure after
        (⟨⟨detail, p', replied, failed, seen'⟩ | ⟨impossible, -⟩, same⟩ | ⟨struck, seen'⟩)
      · exact .inl ⟨detail, p', replied, failed, same.trans seen'⟩
      · cases impossible
      · exact .inr ⟨struck, seen'⟩

end Views

/-! ## Spared requests -/

/-- No operation between two states of a plugin was replaced. -/
def Spared (before after : Faulty σ) : Prop :=
  ∀ operation earlier later, after.attempts = later ++ operation :: earlier →
    before.attempts <:+ earlier → { after with attempts := earlier }.replacement? operation = none

theorem Spared.not_struckSince {before after : Faulty σ} (spared : Spared before after) :
    ¬ StruckSince before.attempts after := by
  rintro ⟨operation, earlier, latest, since, struck⟩
  exact struck (spared operation earlier [] latest since)

/-- Every fault strikes at one count only, and that many operations of its kind have been tried. -/
def Past (faulty : Faulty σ) : Prop :=
  ∀ fault ∈ faulty.faults, fault.count.any (· ≤ faulty.attempts.count fault.operation) = true

/-- A fault does not strike once its count is past. -/
theorem Past.replacement?_eq_none {faulty : Faulty σ} (past : faulty.Past)
    (operation : Operation) : faulty.replacement? operation = none := by
  rw [Faulty.replacement?, Option.map_eq_none_iff, List.find?_eq_none]
  intro fault mem strikes
  obtain ⟨count, once, le⟩ := (Option.any_eq_true _ _).mp (past fault mem)
  rw [once, Option.all_some, Bool.and_eq_true, decide_eq_true_eq, decide_eq_true_eq] at strikes
  obtain ⟨rfl, now⟩ := strikes
  have le := of_decide_eq_true le
  omega

theorem Past.of_suffix {before after : Faulty σ} (past : before.Past)
    (same : after.faults = before.faults) (since : before.attempts <:+ after.attempts) :
    after.Past := by
  intro fault mem
  rw [same] at mem
  obtain ⟨count, once, le⟩ := (Option.any_eq_true _ _).mp (past fault mem)
  have more := since.sublist.count_le fault.operation
  exact (Option.any_eq_true _ _).mpr
    ⟨count, once, decide_eq_true (Nat.le_trans (of_decide_eq_true le) more)⟩

/-- Once all faults are past, everything is spared. -/
theorem Past.spared {before after : Faulty σ} (past : before.Past)
    (same : after.faults = before.faults) : Spared before after := by
  intro operation earlier _ _ since
  have past' : Past { after with attempts := earlier } := past.of_suffix same since
  exact past'.replacement?_eq_none operation

end Faulty

/-! ## Histories -/

/-- What becomes of a plugin that serves one request after another, whatever comes of them. -/
def serveAll {σ : Type} (guest : Guest σ) (history : List Request) (s : σ) : σ :=
  history.foldl (fun s request => (formatWith guest request s).2) s

/-- A request leaves a conforming plugin in sight, whatever comes of it. -/
theorem exists_view_formatWith {σ : Type} {guest : Guest σ} {view : σ → Option PluginView}
    {mishap : σ → Prop} {formatter : Formatter} {s : σ} {p : PluginView}
    (conforms : Conforms mishap guest view formatter) (seen : view s = some p)
    (request : Request) : ∃ p', view (formatWith guest request s).2 = some p' :=
  (formatWith_settles conforms seen request).state (fun _ _ holds => holds.2)
    fun _ _ holds => holds.2

/-- A conforming plugin stays in sight over any history. -/
theorem exists_view_serveAll {σ : Type} {guest : Guest σ} {view : σ → Option PluginView}
    {mishap : σ → Prop} {formatter : Formatter} {s : σ} {p : PluginView}
    (conforms : Conforms mishap guest view formatter) (seen : view s = some p)
    (history : List Request) : ∃ p', view (serveAll guest history s) = some p' := by
  induction history generalizing s p with
  | nil => exact ⟨p, seen⟩
  | cons request history ih =>
      obtain ⟨p', seen'⟩ := exists_view_formatWith conforms seen request
      exact ih seen'

/-- After any history of requests, some of them abandoned wherever a fault struck, a request that is
spared has the outcome that it has with any other plugin that formats alike. -/
theorem formatWith_recovers {σ τ : Type} {guest : Guest σ} {other : Guest τ}
    {view : σ → Option PluginView} {otherView : τ → Option PluginView} {formatter : Formatter}
    {s : σ} {t : τ} {p q : PluginView} (conforms : Conforms never guest view formatter)
    (otherConforms : Conforms never other otherView formatter) (seen : view s = some p)
    (otherSeen : otherView t = some q) (faults : List InjectedFault)
    (failing : ∀ fault ∈ faults, ∃ failure, fault.replacement = .failure failure)
    (history : List Request) (request : Request)
    (spared : Faulty.Spared (serveAll guest.faulty history (.start s faults))
      (formatWith guest.faulty request (serveAll guest.faulty history (.start s faults))).2) :
    (formatWith guest.faulty request (serveAll guest.faulty history (.start s faults))).1 =
      (formatWith other request t).1 := by
  have begun : Faulty.viewSince faults [] view (.start s faults) = some p :=
    (Faulty.viewSince_eq rfl (List.suffix_refl _)).trans seen
  obtain ⟨p', seen'⟩ := exists_view_serveAll (Faulty.conforms failing conforms) begun history
  generalize serveAll guest.faulty history (.start s faults) = before at seen' spared ⊢
  -- The view is renewed: a slip now counts only if it comes after everything in the history.
  obtain ⟨same, -, seenGuest⟩ := Faulty.of_viewSince seen'
  have now : Faulty.viewSince faults before.attempts view before = some p' :=
    (Faulty.viewSince_eq same (List.suffix_refl _)).trans seenGuest
  have settles := formatWith_settles (Faulty.conforms failing conforms) now request
  obtain ⟨t', q', served, -⟩ := (formatWith_settles otherConforms otherSeen request).exists_state
  rw [served]
  cases run : formatWith guest.faulty request before with
  | mk reached after =>
      rw [run] at spared
      cases reached with
      | ok output => exact (settles.good_of_ok run).1.symm
      | error failure =>
          rcases (settles.bad_of_error run).1 with same | struck
          · exact same.symm
          · exact absurd struck spared.not_struckSince

/-- Two faults in the midst of transfers: one of them when the third chunk is appended, and the
other when the fortieth chunk of all is written. -/
def Faulty.mishaps : List InjectedFault :=
  [⟨.call .appendStaged, some 3,
      .failure (.execution "add_to_shared_bytes_from_buffer" "stopped")⟩,
    ⟨.write, some 40, .failure (.internal "stopped")⟩]

/-- A plugin that accents every text, with a buffer that holds three bytes or two. -/
def ScriptedPlugin.roomy : ScriptedPlugin :=
  { ScriptedPlugin.wide with rules := ScriptedPlugin.accenting.rules }

/-- The first request is abandoned in its first transfer, and the second one in its second transfer.
-/
theorem Faulty.past_mishaps :
    (serveAll ScriptedPlugin.guest.faulty [.sample, .sample] (.start .roomy mishaps)).Past := by
  rw [Past]
  decide +kernel

theorem formatWith_recovers_after_mishaps :
    (formatWith ScriptedPlugin.guest.faulty .sample
        (serveAll ScriptedPlugin.guest.faulty [.sample, .sample]
          (.start .roomy Faulty.mishaps))).1 =
      (formatWith ScriptedPlugin.guest .sample .accenting).1 := by
  have failing : ∀ fault ∈ Faulty.mishaps, ∃ failure, fault.replacement = .failure failure :=
    List.forall_mem_cons.mpr ⟨⟨_, rfl⟩, List.forall_mem_singleton.mpr ⟨_, rfl⟩⟩
  have conforms := ScriptedPlugin.conforms ScriptedPlugin.moderate_accenting
  have seen := ScriptedPlugin.view_of_usable .roomy (by decide)
  refine formatWith_recovers conforms conforms seen
    (ScriptedPlugin.view_of_usable .accenting (by decide)) Faulty.mishaps failing
    [.sample, .sample] .sample ?_
  have begun : Faulty.viewSince Faulty.mishaps [] (ScriptedPlugin.view _)
      (.start .roomy Faulty.mishaps) = some _ :=
    (Faulty.viewSince_eq rfl (List.suffix_refl _)).trans seen
  obtain ⟨p, before⟩ :=
    exists_view_serveAll (Faulty.conforms failing conforms) begun [.sample, .sample]
  obtain ⟨q, after⟩ := exists_view_formatWith (Faulty.conforms failing conforms) before .sample
  exact Faulty.past_mishaps.spared
    ((Faulty.of_viewSince after).1.trans (Faulty.of_viewSince before).1.symm)

end FormatterHost
