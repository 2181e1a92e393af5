import FormatterHost.Proofs.Conversation
import FormatterHost.Proofs.Recording
import FormatterHost.Proofs.Recovery

/-!
# Watched plugins

Two things about a plugin that its conversations do not tell by themselves: whether it keeps what it
has been told while it is asked about a text, and in which states it was to format one.  A watched
plugin remembers those states; only the call that formats adds to them.
-/

namespace FormatterHost

variable {σ α β : Type}

/-! ## Plugins that remember what they are told -/

/-- The laws of a plugin that, besides, keeps what it has been told whatever it is asked about a
text. -/
structure Retains (mishap : σ → Prop) (guest : Guest σ) (view : σ → Option PluginView)
    (formatter : Formatter) : Prop extends Conforms mishap guest view formatter where
  retains : ∀ s p, view s = some p → ∀ callee, callee.consults = true →
    ∀ p', view (guest.call callee [] s).2 = some p' → p'.kept = p.kept

/-- A plugin retains what it is told if it does so with nothing around it. -/
theorem Guest.Wraps.retains {τ : Type} {f : τ → σ} {wrapped : Guest τ} {plain : Guest σ}
    {mishap : σ → Prop} {view : σ → Option PluginView} {formatter : Formatter}
    (wraps : wrapped.Wraps f plain) (retains : Retains mishap plain view formatter) :
    Retains (fun t => mishap (f t)) wrapped (fun t => view (f t)) formatter where
  toConforms := wraps.conforms retains.toConforms
  retains t p seen callee consults p' seen' := by
    have same : f (wrapped.call callee [] t).2 = (plain.call callee [] (f t)).2 := by
      rw [wraps.call callee [] t]
    rw [same] at seen'
    exact retains.retains (f t) p seen callee consults p' seen'

/-- A plugin with faults that only fail retains what the plugin itself does. -/
theorem Faulty.retains {guest : Guest σ} {view : σ → Option PluginView} {formatter : Formatter}
    {faults : List InjectedFault} {base : List Operation}
    (failing : ∀ fault ∈ faults, ∃ failure, fault.replacement = .failure failure)
    (retains : Retains never guest view formatter) :
    Retains (StruckSince base) guest.faulty (viewSince faults base view) formatter where
  toConforms := conforms failing retains.toConforms
  retains faulty p seen callee consults p' seen' := by
    obtain ⟨same, since, seenGuest⟩ := of_viewSince seen
    subst same
    cases struck : faulty.replacement? (.call callee) with
    | some replacement =>
        obtain ⟨failure, rfl⟩ := exists_failure failing struck
        simp only [Guest.faulty, attempt, struck] at seen'
        rw [viewSince_carried seen, seenGuest] at seen'
        cases seen'
        rfl
    | none =>
        simp only [Guest.faulty, attempt, struck] at seen'
        rw [viewSince_carried seen] at seen'
        exact retains.retains _ p seenGuest callee consults p' seen'

/-! ## Watched plugins -/

/-- The state of a plugin, and the states in which it was to format a text, the latest first. -/
structure Watched (σ : Type) where
  guest : σ
  consulted : List σ

namespace Watched

/-- A plugin before it is to format anything. -/
def start (guest : σ) : Watched σ :=
  ⟨guest, []⟩

/-- An operation that formats no text. -/
def carry (x : Exchange σ α) : Exchange (Watched σ) α :=
  .onPart Watched.guest (fun w guest => { w with guest }) x

/-- The operation that formats a text. -/
def consult (x : Exchange σ α) : Exchange (Watched σ) α :=
  fun w =>
    let (outcome, guest) := x w.guest
    (outcome, ⟨guest, w.guest :: w.consulted⟩)

end Watched

/-- The plugin that remembers the states in which it was to format a text. -/
def Guest.watched (guest : Guest σ) : Guest (Watched σ) where
  call callee args :=
    if callee = .format then Watched.consult (guest.call callee args)
    else Watched.carry (guest.call callee args)
  read offset length := Watched.carry (guest.read offset length)
  write offset bytes := Watched.carry (guest.write offset bytes)

/-- Without its memories, a watched plugin is the plugin itself. -/
theorem Guest.watched_wraps (guest : Guest σ) : guest.watched.Wraps Watched.guest guest where
  call callee args w := by
    simp only [Guest.watched]
    split <;> rfl
  read _ _ _ := rfl
  write _ _ _ := rfl

/-- No text is formatted in the conversation `x`. -/
def FormatsNothing (x : Exchange (Watched σ) α) : Prop :=
  ∀ w, (x w).2.consulted = w.consulted

namespace FormatsNothing

variable {x : Exchange (Watched σ) α} {guest : Guest σ}

theorem ofExcept (outcome : Except Failure α) :
    FormatsNothing (Exchange.ofExcept outcome : Exchange (Watched σ) α) :=
  fun _ => rfl

theorem bind {f : α → Exchange (Watched σ) β} (first : FormatsNothing x)
    (second : ∀ value, FormatsNothing (f value)) : FormatsNothing (x >>= f) :=
  Exchange.bind_keeps (R := fun (w w' : Watched σ) => w'.consulted = w.consulted)
    (fun before after => after.trans before) first second

theorem call {callee : Export} (args : List Int32) (other : callee ≠ .format) :
    FormatsNothing (guest.watched.call callee args) := by
  intro w
  simp only [Guest.watched, if_neg other]
  rfl

theorem callInt {callee : Export} (args : List Int32) (other : callee ≠ .format) :
    FormatsNothing (guest.watched.callInt callee args) := by
  refine bind (call args other) fun answer => ?_
  cases answer with
  | some value => exact ofExcept (.ok value)
  | none => exact ofExcept (.error _)

/-- Only the call that is for it formats a text. -/
theorem inherited (guest : Guest σ) : Inherited guest.watched fun _ x => FormatsNothing x where
  pure value := ofExcept (.ok value)
  fail failure _ := ofExcept (.error failure)
  bind := bind
  pointwise runs w := by
    obtain ⟨y, nothing, same⟩ := runs w
    rw [same]
    exact nothing w
  callUnit callee args effect := by
    have other : callee ≠ .format := by
      rintro rfl
      cases effect
    exact bind (call args other) fun _ => ofExcept (.ok ())
  query := bind (callInt [] nofun) fun _ => bind (callInt [] nofun) fun _ => ofExcept _
  read _ _ := fun _ => rfl
  write _ _ := fun _ => rfl

theorem stagedLength {callee : Export} (other : callee ≠ .format) :
    FormatsNothing (Verdict.stagedLength guest.watched callee) := by
  refine bind (callInt [] other) fun length => ?_
  by_cases nonneg : 0 ≤ length
  · rw [if_pos nonneg]
    exact ofExcept (.ok _)
  · rw [if_neg nonneg]
    exact ofExcept (.error _)

/-- Where no text is formatted, whatever else a conversation comes to, the memories stay. -/
theorem and_ends {w : Watched σ} {good : α → Watched σ → Prop} {bad : Failure → Watched σ → Prop}
    (nothing : FormatsNothing x) (ends : x.Ends w good bad) :
    x.Ends w (fun value w' => good value w' ∧ w'.consulted = w.consulted)
      (fun failure w' => bad failure w' ∧ w'.consulted = w.consulted) where
  good_of_ok run := ⟨ends.good_of_ok run, by rw [← nothing w, run]⟩
  bad_of_error run := ⟨ends.bad_of_error run, by rw [← nothing w, run]⟩

theorem and_leads {view : Watched σ → Option PluginView} {mishap : Watched σ → Prop}
    {w : Watched σ} {good : α → PluginView → Prop} {lost : PluginView → Prop}
    (nothing : FormatsNothing x) (leads : Leads view mishap x w good lost) :
    x.Ends w (fun value w' => (∃ p, view w' = some p ∧ good value p) ∧ w'.consulted = w.consulted)
      (fun _ w' => (∃ p, view w' = some p ∧ lost p) ∧ w'.consulted = w.consulted) :=
  (nothing.and_ends leads).mono (fun _ _ holds => holds) fun _ _ holds => ⟨holds.1.2, holds.2⟩

end FormatsNothing

end FormatterHost
