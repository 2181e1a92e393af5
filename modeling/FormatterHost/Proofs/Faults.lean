import FormatterHost.Proofs.Recording

/-!
# Faults

A fault is seen in an operation that fails, in an answer that is missing or negative, or in a
staging buffer that cannot be used.  A request ends with the first fault: nothing is asked of the
plugin after it, and the failure of the request names it.  Only a fault can put the blame on the
plugin.
-/

namespace FormatterHost

/-! ## Faults and their failures -/

/-- The failure of an operation, as a request reports it. -/
def Event.failure? : Event → Option Failure
  | .call callee _ (.error failure) =>
    some (if callee = .format then recoverTrap failure else failure)
  | .read _ _ (.error failure) => some failure
  | .write _ _ (.error failure) => some failure
  | _ => none

/-- Operations in which a fault is seen, and the failure that names it. -/
inductive Fault : List Event → Failure → Prop where
  /-- An operation fails. -/
  | failed {event : Event} {failure : Failure} (reported : event.failure? = some failure) :
      Fault [event] failure
  /-- A call whose result is needed has none. -/
  | silent (callee : Export) (args : List Int32) (needed : callee.hasResult = true) :
      Fault [.call callee args (.ok none)] (.signatureMismatch callee.name callee.signature)
  /-- The staging buffer lies nowhere, or has no room. -/
  | unusable {capacity offset : Int32} (unusable : offset.toInt < 0 ∨ capacity.toInt ≤ 0) :
      Fault [.call .stagingCapacity [] (.ok (some capacity)),
        .call .stagingOffset [] (.ok (some offset))] (.invalidBuffer offset capacity)
  /-- A report has less than no bytes. -/
  | negative {callee : Export} {length : Int32}
      (report : callee = .getFormattedText ∨ callee = .getErrorText) (negative : length < 0) :
      Fault [.call callee [] (.ok (some length))]
        (.execution callee.name s!"reported negative length {length.toInt}")

namespace Fault

variable {event : Event} {failure other : Failure}

/-- A failed operation is not taken for anything else. -/
theorem eq_of_failed (fault : Fault [event] other) (reported : event.failure? = some failure) :
    other = failure := by
  cases fault with
  | failed same => exact Option.some.inj (same.symm.trans reported)
  | silent callee args needed => cases reported
  | negative report negative => cases reported

/-- An operation shows one fault at most. -/
theorem unique (first : Fault [event] failure) (second : Fault [event] other) :
    failure = other := by
  cases first with
  | failed reported => exact (second.eq_of_failed reported).symm
  | silent callee args needed =>
      cases second with
      | failed reported => cases reported
      | silent => rfl
  | negative report negative =>
      cases second with
      | failed reported => cases reported
      | negative => rfl

/-- A call for its effect shows no fault when it succeeds. -/
theorem not_of_effect {callee : Export} {args : List Int32} {answer : Option Int32}
    (effect : callee.hasResult = false) : ¬ Fault [.call callee args (.ok answer)] failure := by
  intro fault
  cases fault with
  | failed reported => cases reported
  | silent callee args needed =>
      rw [effect] at needed
      cases needed
  | negative report negative => rcases report with rfl | rfl <;> cases effect

/-- An answer shows no fault by itself, unless it is the length of a report. -/
theorem negative_report {callee : Export} {args : List Int32} {answer : Int32}
    (fault : Fault [.call callee args (.ok (some answer))] failure) :
    (callee = .getFormattedText ∨ callee = .getErrorText) ∧ answer < 0 := by
  cases fault with
  | failed reported => cases reported
  | negative report negative => exact ⟨report, negative⟩

theorem not_of_quiet {answer : Int32} {args : List Int32} {callee : Export}
    (asked : callee.consults = false) :
    ¬ Fault [.call callee args (.ok (some answer))] failure := by
  intro fault
  rcases fault.negative_report.1 with rfl | rfl <;> cases asked

/-- Faults are seen in one operation, or in two of which the first asks for a capacity. -/
theorem shape {shown : List Event} (fault : Fault shown failure) :
    ∃ event, shown = [event] ∨ ∃ outcome, shown = [.call .stagingCapacity [] outcome, event] := by
  cases fault with
  | failed reported => exact ⟨_, .inl rfl⟩
  | silent callee args needed => exact ⟨_, .inl rfl⟩
  | unusable unusable => exact ⟨_, .inr ⟨_, rfl⟩⟩
  | negative report negative => exact ⟨_, .inl rfl⟩

end Fault

/-- The last of the operations show a fault. -/
def Breaks (events : List Event) (failure : Failure) : Prop :=
  ∃ shown, Fault shown failure ∧ shown <:+ events

namespace Breaks

variable {event : Event} {before after : List Event} {failure : Failure}

theorem nonempty (breaks : Breaks before failure) : before ≠ [] := by
  rintro rfl
  obtain ⟨shown, fault, isSuffix⟩ := breaks
  rw [List.suffix_nil] at isSuffix
  subst isSuffix
  cases fault

theorem fault (breaks : Breaks [event] failure) : Fault [event] failure := by
  obtain ⟨shown, fault, isSuffix⟩ := breaks
  rw [List.suffix_cons_iff, List.suffix_nil] at isSuffix
  rcases isSuffix with rfl | rfl
  · exact fault
  · cases fault

theorem append (breaks : Breaks after failure) (before : List Event) :
    Breaks (before ++ after) failure := by
  obtain ⟨shown, fault, isSuffix⟩ := breaks
  exact ⟨shown, fault, isSuffix.trans (List.suffix_append before after)⟩

end Breaks

/-! ## Operations without fault -/

/-- No fault is seen, and the last operation does not leave the staging buffer half known. -/
structure Clean (events : List Event) : Prop where
  sound : ∀ before failure, before <+: events → ¬ Breaks before failure
  whole : ∀ args outcome, events.getLast? ≠ some (.call .stagingCapacity args outcome)

/-- A fault is seen in the last operation or not at all, and `failure` names it.  Without a fault,
`failure` does not blame the plugin. -/
structure Stopped (failure : Failure) (events : List Event) : Prop where
  last : ∀ before other, before <+: events → Breaks before other → before = events ∧ other = failure
  cause : failure.isContractViolation = true → Breaks events failure

variable {event : Event} {before after : List Event} {failure : Failure}

theorem Clean.nil : Clean [] where
  sound _ _ isPrefix breaks := breaks.nonempty (List.prefix_nil.mp isPrefix)
  whole _ _ := nofun

theorem Stopped.nil (blameless : failure.isContractViolation = false) : Stopped failure [] where
  last before other isPrefix breaks := absurd (List.prefix_nil.mp isPrefix) breaks.nonempty
  cause blames := by
    rw [blameless] at blames
    cases blames

/-- A fault that is seen later is seen in the later operations alone. -/
theorem Clean.breaks_of_append (clean : Clean before) (later : after ≠ [])
    (breaks : Breaks (before ++ after) failure) : Breaks after failure := by
  obtain ⟨shown, fault, isSuffix⟩ := breaks
  rcases List.suffix_or_suffix_of_suffix isSuffix (List.suffix_append before after) with
    within | around
  · exact ⟨shown, fault, within⟩
  · refine ⟨shown, fault, ?_⟩
    obtain ⟨event, rfl | ⟨outcome, rfl⟩⟩ := fault.shape
    · rcases List.suffix_cons_iff.mp around with rfl | nothing
      · exact List.suffix_rfl
      · exact absurd (List.suffix_nil.mp nothing) later
    · rcases List.suffix_cons_iff.mp around with rfl | inner
      · exact List.suffix_rfl
      · rcases List.suffix_cons_iff.mp inner with rfl | nothing
        · -- The capacity would have been asked for before, and the offset after.
          obtain ⟨rest, same⟩ := isSuffix
          have half : rest ++ [.call .stagingCapacity [] outcome] = before :=
            List.append_cancel_right ((List.append_assoc _ _ _).trans same)
          subst half
          exact absurd List.getLast?_concat (clean.whole [] outcome)
        · exact absurd (List.suffix_nil.mp nothing) later

/-- Without a fault before, prefixes that break do so in the later operations. -/
theorem Clean.prefix_of_append (clean : Clean before) {part : List Event}
    (isPrefix : part <+: before ++ after) (breaks : Breaks part failure) :
    ∃ rest, part = before ++ rest ∧ rest <+: after ∧ Breaks rest failure := by
  rcases List.prefix_or_prefix_of_prefix isPrefix (List.prefix_append before after) with
    within | ⟨rest, rfl⟩
  · exact absurd breaks (clean.sound _ _ within)
  · refine ⟨rest, rfl, (List.prefix_append_right_inj before).mp isPrefix, ?_⟩
    refine clean.breaks_of_append ?_ breaks
    rintro rfl
    rw [List.append_nil] at breaks
    exact clean.sound before failure List.prefix_rfl breaks

theorem Clean.append (clean : Clean before) (rest : Clean after) : Clean (before ++ after) where
  sound part failure isPrefix breaks := by
    obtain ⟨later, -, isPrefix', breaks'⟩ := clean.prefix_of_append isPrefix breaks
    exact rest.sound later failure isPrefix' breaks'
  whole args outcome := by
    rw [List.getLast?_append]
    cases last : after.getLast? with
    | none => exact clean.whole args outcome
    | some event =>
        rw [Option.some_or, ← last]
        exact rest.whole args outcome

theorem Clean.append_stopped (clean : Clean before) (stopped : Stopped failure after) :
    Stopped failure (before ++ after) where
  last part other isPrefix breaks := by
    obtain ⟨later, rfl, isPrefix', breaks'⟩ := clean.prefix_of_append isPrefix breaks
    obtain ⟨rfl, rfl⟩ := stopped.last later other isPrefix' breaks'
    exact ⟨rfl, rfl⟩
  cause blames := (stopped.cause blames).append before

theorem Clean.not_fault {shown : List Event} (clean : Clean (before ++ shown ++ after)) :
    ¬ Fault shown failure :=
  fun fault => clean.sound _ failure (List.prefix_append _ after)
    ⟨shown, fault, List.suffix_append before shown⟩

/-- Nothing comes after a fault. -/
theorem Stopped.at_fault {shown : List Event} {other : Failure}
    (stopped : Stopped failure (before ++ shown ++ after)) (fault : Fault shown other) :
    after = [] ∧ failure = other := by
  obtain ⟨all, same⟩ := stopped.last _ other (List.prefix_append _ after)
    ⟨shown, fault, List.suffix_append before shown⟩
  exact ⟨List.self_eq_append_right.mp all, same.symm⟩

/-! ## Conversations that end with the first fault -/

theorem Breaks.of_prefix_single (breaks : Breaks before failure) (isPrefix : before <+: [event]) :
    before = [event] ∧ Fault [event] failure := by
  rcases List.prefix_cons_iff.mp isPrefix with rfl | ⟨rest, rfl, nothing⟩
  · exact absurd rfl breaks.nonempty
  · cases List.prefix_nil.mp nothing
    exact ⟨rfl, breaks.fault⟩

/-- Where a first operation shows no fault, a second one does, or both together do. -/
theorem Breaks.of_prefix_pair {first second : Event} (innocent : ∀ failure, ¬ Fault [first] failure)
    (breaks : Breaks before failure) (isPrefix : before <+: [first, second]) :
    before = [first, second] ∧ (Fault [first, second] failure ∨ Fault [second] failure) := by
  rcases List.prefix_cons_iff.mp isPrefix with rfl | ⟨rest, rfl, isPrefix'⟩
  · exact absurd rfl breaks.nonempty
  · rcases List.prefix_cons_iff.mp isPrefix' with rfl | ⟨rest, rfl, nothing⟩
    · exact absurd breaks.fault (innocent failure)
    · cases List.prefix_nil.mp nothing
      obtain ⟨shown, fault, isSuffix⟩ := breaks
      rcases List.suffix_cons_iff.mp isSuffix with rfl | isSuffix'
      · exact ⟨rfl, .inl fault⟩
      · exact ⟨rfl, .inr (Breaks.fault ⟨shown, fault, isSuffix'⟩)⟩

theorem Clean.single (innocent : ∀ failure, ¬ Fault [event] failure)
    (told : ∀ args outcome, event ≠ .call .stagingCapacity args outcome) : Clean [event] where
  sound _ failure isPrefix breaks := innocent failure (breaks.of_prefix_single isPrefix).2
  whole args outcome same := told args outcome (Option.some.inj same)

theorem Stopped.single (fault : Fault [event] failure) : Stopped failure [event] where
  last before other isPrefix breaks := by
    obtain ⟨rfl, fault'⟩ := breaks.of_prefix_single isPrefix
    exact ⟨rfl, fault'.unique fault⟩
  cause _ := ⟨_, fault, List.suffix_rfl⟩

theorem Stopped.pair {first second : Event} (innocent : ∀ failure, ¬ Fault [first] failure)
    (fault : Fault [second] failure) (apart : ∀ other, ¬ Fault [first, second] other) :
    Stopped failure [first, second] where
  last before other isPrefix breaks := by
    obtain ⟨rfl, both | fault'⟩ := breaks.of_prefix_pair innocent isPrefix
    · exact absurd both (apart other)
    · exact ⟨rfl, fault'.unique fault⟩
  cause _ := ⟨_, fault, List.suffix_append [first] [second]⟩

section FailStop

variable {σ α β : Type} {guest : Guest σ}

/-- The conversation `x` ends with the first fault. -/
def FailStop (x : Exchange (Recorded σ) α) : Prop :=
  Performs x (fun _ => Clean) Stopped

namespace FailStop

theorem bind {x : Exchange (Recorded σ) α} {f : α → Exchange (Recorded σ) β} (first : FailStop x)
    (second : ∀ value, FailStop (f value)) : FailStop (x >>= f) := by
  refine Performs.andThen first ?_ fun _ _ stopped => stopped
  intro value before clean
  exact (second value).mono (fun _ _ rest => clean.append rest)
    fun _ _ stopped => clean.append_stopped stopped

theorem callUnit {callee : Export} (args : List Int32) (effect : callee.hasResult = false) :
    FailStop (guest.recorded.callUnit callee args) := by
  have other : callee ≠ .format := by
    rintro rfl
    cases effect
  refine Performs.callUnit ?_ fun _ => .single (.failed (congrArg some (if_neg other)))
  refine fun answer => .single (fun _ => Fault.not_of_effect effect) ?_
  rintro args outcome ⟨⟩
  cases effect

/-- A call whose answer is needed ends with a fault, or with the answer. -/
theorem callInt {callee : Export} (args : List Int32) (needed : callee.hasResult = true)
    (other : callee ≠ .format) :
    Performs (guest.recorded.callInt callee args)
      (fun value events => events = [.call callee args (.ok (some value))]) Stopped :=
  .callInt (fun _ => rfl) (.single (.silent callee args needed))
    fun _ => .single (.failed (congrArg some (if_neg other)))

theorem format : FailStop ((guest.recorded.callInt .format []).mapFailure recoverTrap) := by
  refine .mapFailure (.callInt ?_ (.single (.silent .format [] rfl)) fun _ =>
    .single (.failed rfl))
  refine fun code => .single (fun failure fault => ?_) nofun
  rcases fault.negative_report.1 with report | report <;> cases report

theorem stagedLength {callee : Export}
    (report : callee = .getFormattedText ∨ callee = .getErrorText) :
    FailStop (Verdict.stagedLength guest.recorded callee) := by
  have needed : callee.hasResult = true := by rcases report with rfl | rfl <;> rfl
  have other : callee ≠ .format := by rcases report with rfl | rfl <;> nofun
  have told : callee ≠ .stagingCapacity := by rcases report with rfl | rfl <;> nofun
  refine (callInt [] needed other).andThen ?_ fun _ _ stopped => stopped
  rintro length before rfl
  by_cases nonneg : 0 ≤ length
  · rw [if_pos nonneg]
    refine .pure (.single (fun failure fault => ?_) ?_)
    · exact Int32.not_lt.mpr nonneg fault.negative_report.2
    · rintro args outcome ⟨⟩
      exact told rfl
  · rw [if_neg nonneg]
    exact .fail (.single (.negative report (Int32.not_le.mp nonneg)))

/-- A plugin that tells both numbers of its staging buffer shows a fault if the buffer cannot be
used. -/
theorem ofReported (capacity offset : Int32) :
    Performs (Exchange.ofExcept (StagingBuffer.ofReported offset capacity) :
        Exchange (Recorded σ) StagingBuffer)
      (fun _ after => Clean ([.call .stagingCapacity [] (.ok (some capacity)),
        .call .stagingOffset [] (.ok (some offset))] ++ after))
      (fun failure after => Stopped failure ([.call .stagingCapacity [] (.ok (some capacity)),
        .call .stagingOffset [] (.ok (some offset))] ++ after)) := by
  rw [StagingBuffer.ofReported]
  split
  · rename_i usable
    refine .pure ⟨fun before failure isPrefix breaks => ?_, fun args outcome same => ?_⟩
    · rcases (breaks.of_prefix_pair (fun _ => Fault.not_of_quiet rfl) isPrefix).2 with
        fault | fault
      · cases fault with
        | unusable unusable => omega
      · exact Fault.not_of_quiet rfl fault
    · cases Option.some.inj same
  · rename_i unusable
    have fault : Fault [.call .stagingCapacity [] (.ok (some capacity)),
        .call .stagingOffset [] (.ok (some offset))] (.invalidBuffer offset capacity) :=
      .unusable (by omega)
    refine .fail ⟨fun before other isPrefix breaks => ?_, fun _ => ⟨_, fault, List.suffix_rfl⟩⟩
    obtain ⟨rfl, both | second⟩ := breaks.of_prefix_pair (fun _ => Fault.not_of_quiet rfl) isPrefix
    · cases both
      exact ⟨rfl, rfl⟩
    · exact absurd second (Fault.not_of_quiet rfl)

theorem query : FailStop (StagingBuffer.query guest.recorded) := by
  have first : Performs (guest.recorded.callInt .stagingCapacity []) _ Stopped :=
    callInt [] rfl nofun
  refine first.andThen ?_ fun _ _ stopped => stopped
  rintro capacity before rfl
  have second : Performs (guest.recorded.callInt .stagingOffset [])
      (fun offset events => events = [.call .stagingOffset [] (.ok (some offset))])
      (fun failure after =>
        Stopped failure ([.call .stagingCapacity [] (.ok (some capacity))] ++ after)) := by
    refine .callInt (fun _ => rfl) ?_ fun failure => ?_
    · refine .pair (fun _ => Fault.not_of_quiet rfl) (.silent .stagingOffset [] rfl) ?_
      intro other fault
      cases fault
    · refine .pair (fun _ => Fault.not_of_quiet rfl) (.failed rfl) ?_
      intro other fault
      cases fault
  refine second.andThen ?_ fun _ _ stopped => stopped
  rintro offset before rfl
  exact ofReported capacity offset

/-- Every operation of a request ends it with the first fault. -/
theorem inherited (guest : Guest σ) : Inherited guest.recorded fun _ x => FailStop x where
  pure _ := .pure .nil
  fail _ blameless := .fail (.nil blameless)
  bind := bind
  pointwise := Performs.pointwise
  callUnit _ args effect := callUnit args effect
  query := query
  read _ _ := by
    refine .read (fun _ bytes _ _ => .single ?_ nofun) fun failure => .single (.failed rfl)
    intro failure fault
    cases fault with
    | failed reported => cases reported
  write _ _ := by
    refine .write (.single ?_ nofun) fun failure => .single (.failed rfl)
    intro failure fault
    cases fault with
    | failed reported => cases reported

end FailStop

end FailStop

/-- Operations in which a fault is seen are the last ones of a request, whose failure names the
fault.  A request puts the blame on the plugin exactly when it ends so and the fault is the
plugin's. -/
theorem formatWith_ends_at_fault {σ : Type} (guest : Guest σ) (request : Request) (s : σ) :
    (∀ before shown after failure, guest.eventsOf request s = before ++ shown ++ after →
      Fault shown failure →
        after = [] ∧ (formatWith guest request s).1 = .error failure) ∧
    ((∃ failure, (formatWith guest request s).1 = .error failure ∧
        failure.isContractViolation = true) ↔
      ∃ before shown failure, guest.eventsOf request s = before ++ shown ∧ Fault shown failure ∧
        failure.isContractViolation = true) := by
  have performs : FailStop (formatWith guest.recorded request) :=
    (FailStop.inherited guest).formatWith .format (fun _ => .stagedLength) request
  rcases formatWith_performs performs s with ⟨output, answered, clean⟩ | ⟨reason, failed, stopped⟩
  · refine ⟨fun before shown after failure events fault => ?_, ?_, ?_⟩
    · rw [events] at clean
      exact absurd fault clean.not_fault
    · rintro ⟨failure, failed, -⟩
      rw [answered] at failed
      cases failed
    · rintro ⟨before, shown, failure, events, fault, -⟩
      rw [events, ← List.append_nil (before ++ shown)] at clean
      exact absurd fault clean.not_fault
  · refine ⟨fun before shown after failure events fault => ?_, ?_, ?_⟩
    · rw [events] at stopped
      obtain ⟨rfl, rfl⟩ := stopped.at_fault fault
      exact ⟨rfl, failed⟩
    · rintro ⟨failure, failed', blames⟩
      rw [failed] at failed'
      cases failed'
      obtain ⟨shown, fault, before, events⟩ := stopped.cause blames
      exact ⟨before, shown, reason, events.symm, fault, blames⟩
    · rintro ⟨before, shown, failure, events, fault, blames⟩
      rw [events, ← List.append_nil (before ++ shown)] at stopped
      obtain ⟨-, rfl⟩ := stopped.at_fault fault
      exact ⟨reason, failed, blames⟩

end FormatterHost
