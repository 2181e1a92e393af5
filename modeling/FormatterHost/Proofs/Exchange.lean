import FormatterHost.Guest.Basic

/-!
# Outcomes of conversations

A conversation begun in a state either answers or fails, and leaves a state in both cases.  `Ends`
states what holds then; its rules follow the ways in which conversations are put together.  A loop
need not end: what it comes to is what a limited number of its turns comes to, and it can be told to
end when every turn comes nearer to that.
-/

namespace FormatterHost

namespace Exchange

variable {σ α β : Type}

/-- What the conversation `x`, begun in `s`, comes to: `good` holds of its answer and the state
left behind, or `bad` holds of its failure and that state. -/
structure Ends (x : Exchange σ α) (s : σ) (good : α → σ → Prop) (bad : Failure → σ → Prop) :
    Prop where
  good_of_ok : ∀ {value s'}, x s = (.ok value, s') → good value s'
  bad_of_error : ∀ {failure s'}, x s = (.error failure, s') → bad failure s'

namespace Ends

variable {x : Exchange σ α} {f : α → Exchange σ β} {s : σ}
variable {good good' : α → σ → Prop} {next : β → σ → Prop} {bad bad' : Failure → σ → Prop}

theorem of_ok {value : α} {s' : σ} (h : x s = (.ok value, s')) (holds : good value s') :
    x.Ends s good bad where
  good_of_ok same := by
    rw [h] at same
    cases same
    exact holds
  bad_of_error same := by
    rw [h] at same
    cases same

theorem of_error {failure : Failure} {s' : σ} (h : x s = (.error failure, s'))
    (holds : bad failure s') : x.Ends s good bad where
  good_of_ok same := by
    rw [h] at same
    cases same
  bad_of_error same := by
    rw [h] at same
    cases same
    exact holds

theorem pure {value : α} (holds : good value s) :
    (Pure.pure value : Exchange σ α).Ends s good bad :=
  of_ok rfl holds

theorem fail {failure : Failure} (holds : bad failure s) :
    (Exchange.fail failure : Exchange σ α).Ends s good bad :=
  of_error rfl holds

/-- A weaker statement about both endings. -/
theorem mono (ends : x.Ends s good bad) (better : ∀ value s', good value s' → good' value s')
    (worse : ∀ failure s', bad failure s' → bad' failure s') : x.Ends s good' bad' where
  good_of_ok run := better _ _ (ends.good_of_ok run)
  bad_of_error run := worse _ _ (ends.bad_of_error run)

/-- A conversation after another: the second one starts where the first one answered. -/
theorem bind (ends : x.Ends s (fun value s' => (f value).Ends s' next bad) bad) :
    (x >>= f).Ends s next bad := by
  cases run : x s with
  | mk outcome s' =>
      cases outcome with
      | ok value =>
          have rest := ends.good_of_ok run
          constructor
          · intro value' s'' both
            rw [bind_of_ok run] at both
            exact rest.good_of_ok both
          · intro failure s'' both
            rw [bind_of_ok run] at both
            exact rest.bad_of_error both
      | error failure => exact of_error (bind_of_error run) (ends.bad_of_error run)

/-- The rule for two conversations whose statements are known. -/
theorem andThen (first : x.Ends s good bad')
    (second : ∀ value s', good value s' → (f value).Ends s' next bad)
    (worse : ∀ failure s', bad' failure s' → bad failure s') : (x >>= f).Ends s next bad :=
  bind (first.mono second worse)

theorem mapFailure {g : Failure → Failure}
    (ends : x.Ends s good (fun failure s' => bad (g failure) s')) :
    (x.mapFailure g).Ends s good bad := by
  cases run : x s with
  | mk outcome s' =>
      cases outcome with
      | ok value =>
          have same : x.mapFailure g s = (.ok value, s') := by rw [Exchange.mapFailure, run]
          exact of_ok same (ends.good_of_ok run)
      | error failure =>
          have reworded : x.mapFailure g s = (.error (g failure), s') := by
            rw [Exchange.mapFailure, run]
          exact of_error reworded (ends.bad_of_error run)

/-- A conversation that cannot fail answers. -/
theorem exists_answer (ends : x.Ends s good bad) (safe : ∀ failure s', ¬ bad failure s') :
    ∃ value s', x s = (.ok value, s') ∧ good value s' := by
  cases run : x s with
  | mk outcome s' =>
      cases outcome with
      | ok value => exact ⟨value, s', rfl, ends.good_of_ok run⟩
      | error failure => exact absurd (ends.bad_of_error run) (safe failure s')

/-- What both endings say of the state left behind. -/
theorem state {P : σ → Prop} (ends : x.Ends s good bad) (better : ∀ value s', good value s' → P s')
    (worse : ∀ failure s', bad failure s' → P s') : P (x s).2 := by
  cases run : x s with
  | mk outcome s' =>
      cases outcome with
      | ok value => exact better value s' (ends.good_of_ok run)
      | error failure => exact worse failure s' (ends.bad_of_error run)

/-- Conversations that run alike end alike. -/
theorem of_apply_eq {y : Exchange σ α} (same : x s = y s) (ends : y.Ends s good bad) :
    x.Ends s good bad where
  good_of_ok run := ends.good_of_ok (same.symm.trans run)
  bad_of_error run := ends.bad_of_error (same.symm.trans run)

end Ends

/-- What both parts of a conversation keep, however they end, the whole keeps. -/
theorem bind_keeps {x : Exchange σ α} {f : α → Exchange σ β} {R : σ → σ → Prop}
    (trans : ∀ {s s' s''}, R s s' → R s' s'' → R s s'') (first : ∀ s, R s (x s).2)
    (second : ∀ value s, R s (f value s).2) (s : σ) : R s ((x >>= f) s).2 := by
  have kept := first s
  cases run : x s with
  | mk outcome s' =>
      rw [run] at kept
      cases outcome with
      | ok value =>
          rw [bind_of_ok run]
          exact trans kept (second value s')
      | error failure =>
          rw [bind_of_error run]
          exact kept

/-! ## Loops -/

/-- A loop that is given up after some turns.  A turn tells from where to go on, or what the loop
comes to. -/
def turns (turn : Turn σ β α) : Nat → β → Exchange σ (Option α)
  | 0, _ => pure none
  | limit + 1, start => do
    match ← turn start with
    | .inl next => turns turn limit next
    | .inr value => pure (some value)

/-- The result of a loop that has not been given up. -/
def settle : Option α → Exchange σ α
  | some value => pure value
  | none => fail endless

section Loop

variable {turn : Turn σ β α} {start : β} {s s' : σ} {limit : Nat}

/-- A turn tells from where to go on, or what the loop comes to, or it fails. -/
theorem Turn.apply_cases (turn : Turn σ β α) (start : β) (s : σ) :
    (∃ next s', turn start s = (.ok (.inl next), s')) ∨
      (∃ value s', turn start s = (.ok (.inr value), s')) ∨
      ∃ failure s', turn start s = (.error failure, s') := by
  cases turn start s with
  | mk answer s' =>
      cases answer with
      | error failure => exact .inr (.inr ⟨failure, s', rfl⟩)
      | ok answer =>
          cases answer with
          | inl next => exact .inl ⟨next, s', rfl⟩
          | inr value => exact .inr (.inl ⟨value, s', rfl⟩)

theorem turns_of_inl {next : β} (ran : turn start s = (.ok (.inl next), s')) :
    turns turn (limit + 1) start s = turns turn limit next s' :=
  bind_of_ok ran

theorem turns_of_inr {value : α} (ran : turn start s = (.ok (.inr value), s')) :
    turns turn (limit + 1) start s = (.ok (some value), s') :=
  bind_of_ok ran

theorem turns_of_error {failure : Failure} (ran : turn start s = (.error failure, s')) :
    turns turn (limit + 1) start s = (.error failure, s') :=
  bind_of_error ran

theorem Turn.loop?_of_inl {next : β} (ran : turn start s = (.ok (.inl next), s')) :
    turn.loop? start s = turn.loop? next s' := by
  rw [loop?, ran]

theorem Turn.loop?_of_inr {value : α} (ran : turn start s = (.ok (.inr value), s')) :
    turn.loop? start s = some (.ok value, s') := by
  rw [loop?, ran]

theorem Turn.loop?_of_error {failure : Failure} (ran : turn start s = (.error failure, s')) :
    turn.loop? start s = some (.error failure, s') := by
  rw [loop?, ran]

theorem loop_of_some {result : Except Failure α × σ} (ended : turn.loop? start s = some result) :
    loop turn start s = result := by
  rw [loop, ended, Option.getD_some]

theorem loop_of_none (never : turn.loop? start s = none) :
    loop turn start s = (.error endless, s) := by
  rw [loop, never, Option.getD_none]

/-- A loop that ends does so with a limited number of turns. -/
theorem Turn.exists_turns_of_loop? {outcome : Except Failure α}
    (ended : turn.loop? start s = some (outcome, s')) :
    ∃ limit, turns turn limit start s = (outcome.map some, s') := by
  let Limited (start : β) (s : σ) (result : Except Failure α × σ) : Prop :=
    ∃ limit, turns turn limit start s = (result.1.map some, result.2)
  -- The loop is the least fixed point of its turns, so what one more turn keeps holds of it.
  refine Turn.loop?.partial_correctness turn Limited ?_ start s (outcome, s') ended
  intro rest ih start s result ended
  obtain ⟨next, s₁, ran⟩ | ⟨value, s₁, ran⟩ | ⟨failure, s₁, ran⟩ := turn.apply_cases start s
  all_goals rw [ran] at ended
  · obtain ⟨limit, limited⟩ := ih next s₁ result ended
    exact ⟨limit + 1, (turns_of_inl ran).trans limited⟩
  · cases ended
    exact ⟨1, turns_of_inr ran⟩
  · cases ended
    exact ⟨1, turns_of_error ran⟩

/-- A loop that is over within a limited number of turns ends there. -/
theorem Turn.loop?_of_turns {outcome : Except Failure α}
    (limited : turns turn limit start s = (outcome.map some, s')) :
    turn.loop? start s = some (outcome, s') := by
  induction limit generalizing start s with
  | zero => cases outcome <;> cases limited
  | succ limit ih =>
      obtain ⟨next, s₁, ran⟩ | ⟨value, s₁, ran⟩ | ⟨failure, s₁, ran⟩ := turn.apply_cases start s
      · rw [turns_of_inl ran] at limited
        rw [Turn.loop?_of_inl ran]
        exact ih limited
      · rw [turns_of_inr ran] at limited
        rw [Turn.loop?_of_inr ran]
        cases outcome <;> cases limited
        rfl
      · rw [turns_of_error ran] at limited
        rw [Turn.loop?_of_error ran]
        cases outcome <;> cases limited
        rfl

/-- A loop ends as soon as it does with a limited number of turns, and in no other way. -/
theorem Turn.loop?_eq_some_iff {outcome : Except Failure α} :
    turn.loop? start s = some (outcome, s') ↔
      ∃ limit, turns turn limit start s = (outcome.map some, s') :=
  ⟨Turn.exists_turns_of_loop?, fun ⟨_, limited⟩ => Turn.loop?_of_turns limited⟩

/-- Every single run of a loop is that of a limited number of turns. -/
theorem exists_loop_eq (turn : Turn σ β α) (start : β) (s : σ) :
    ∃ limit, loop turn start s = (turns turn limit start >>= settle) s := by
  cases ended : turn.loop? start s with
  | none => exact ⟨0, loop_of_none ended⟩
  | some result =>
      obtain ⟨outcome, s'⟩ := result
      obtain ⟨limit, limited⟩ := Turn.loop?_eq_some_iff.mp ended
      refine ⟨limit, ?_⟩
      rw [loop_of_some ended]
      cases outcome with
      | ok value => exact (bind_of_ok (f := settle) limited).symm
      | error failure => exact (bind_of_error limited).symm

/-- After a turn of a loop that started with `start`: the next one starts nearer to the end, with
`inv` of where it starts, or the result is `good`. -/
def Nearer (inv : β → σ → Prop) (left : β → Nat) (good : α → σ → Prop) (start : β) :
    β ⊕ α → σ → Prop
  | .inl next, s => inv next s ∧ left next < left start
  | .inr value, s => good value s

section Nearer

variable {inv : β → σ → Prop} {good : α → σ → Prop} {bad : Failure → σ → Prop}

/-- A loop ends if every turn but the last comes nearer to the end. -/
theorem exists_loop?_eq (left : β → Nat)
    (step : ∀ start s, inv start s → (turn start).Ends s (Nearer inv left good start) bad)
    (start : β) (s : σ) (holds : inv start s) :
    ∃ outcome s', turn.loop? start s = some (outcome, s') ∧
      (∀ value, outcome = .ok value → good value s') ∧
      ∀ failure, outcome = .error failure → bad failure s' := by
  induction size : left start using Nat.strongRecOn generalizing start s with
  | ind n ih =>
      have turned := step start s holds
      obtain ⟨next, s₁, ran⟩ | ⟨value, s₁, ran⟩ | ⟨failure, s₁, ran⟩ := turn.apply_cases start s
      · obtain ⟨holds', nearer⟩ := turned.good_of_ok ran
        rw [Turn.loop?_of_inl ran]
        exact ih (left next) (size ▸ nearer) next s₁ holds' rfl
      · refine ⟨.ok value, s₁, Turn.loop?_of_inr ran, ?_, nofun⟩
        rintro _ ⟨⟩
        exact turned.good_of_ok ran
      · refine ⟨.error failure, s₁, Turn.loop?_of_error ran, nofun, ?_⟩
        rintro _ ⟨⟩
        exact turned.bad_of_error ran

/-- The rule for loops that come to an end: what holds at the start of every turn carries the
statement about the result. -/
theorem Ends.loop (inv : β → σ → Prop) (left : β → Nat)
    (step : ∀ start s, inv start s → (turn start).Ends s (Nearer inv left good start) bad)
    (holds : inv start s) : (loop turn start).Ends s good bad := by
  obtain ⟨outcome, s', ended, answered, failed⟩ := exists_loop?_eq left step start s holds
  cases outcome with
  | ok value => exact .of_ok (loop_of_some ended) (answered value rfl)
  | error failure => exact .of_error (loop_of_some ended) (failed failure rfl)

end Nearer

end Loop

/-! ## Answers -/

/-- Whatever the conversation answers has a property. -/
def Answers (x : Exchange σ α) (P : α → Prop) : Prop :=
  ∀ s value s', x s = (.ok value, s') → P value

namespace Answers

variable {x : Exchange σ α} {P : α → Prop} {f g : α → Exchange σ β} {Q : β → Prop}

theorem pure {value : α} (holds : P value) : (Pure.pure value : Exchange σ α).Answers P := by
  rintro s _ _ ⟨⟩
  exact holds

theorem bind (answers : x.Answers P) (goesOn : ∀ value, P value → (f value).Answers Q) :
    (x >>= f).Answers Q := by
  intro s value s' ran
  cases first : x s with
  | mk outcome s₁ =>
      cases outcome with
      | ok middle =>
          rw [bind_of_ok first] at ran
          exact goesOn middle (answers s middle s₁ first) s₁ value s' ran
      | error failure =>
          rw [bind_of_error first] at ran
          cases ran

/-- Nothing needs to be known of an answer that does not matter. -/
theorem after (goesOn : ∀ value, (f value).Answers Q) : (x >>= f).Answers Q :=
  bind (P := fun _ => True) (fun _ _ _ _ => trivial) fun value _ => goesOn value

/-- Conversations go on alike if they do so from every answer that can be given. -/
theorem bind_congr (answers : x.Answers P) (alike : ∀ value, P value → f value = g value) :
    x >>= f = x >>= g := by
  funext s
  cases first : x s with
  | mk outcome s₁ =>
      cases outcome with
      | ok value =>
          rw [bind_of_ok first, bind_of_ok first, alike value (answers s value s₁ first)]
      | error failure => rw [bind_of_error first, bind_of_error first]

end Answers

/-- What follows a turn of a loop. -/
def goOn (turn : Turn σ β α) : β ⊕ α → Exchange σ α
  | .inl next => loop turn next
  | .inr value => pure value

/-- If every turn but the last comes nearer to the end, a loop is a turn and the loop from there.  A
loop without end is not: its failure leaves the state in which it began. -/
theorem loop_eq {turn : Turn σ β α} (left : β → Nat)
    (nearer : ∀ start, (turn start).Answers fun answer =>
      ∀ next, answer = .inl next → left next < left start) (start : β) :
    loop turn start = turn start >>= goOn turn := by
  have step (start : β) (s : σ) (_ : True) : (turn start).Ends s
      (Nearer (fun _ _ => True) left (fun _ _ => True) start) (fun _ _ => True) := by
    refine ⟨?_, fun _ => trivial⟩
    intro answer s' ran
    cases answer with
    | inl next => exact ⟨trivial, nearer start s _ s' ran next rfl⟩
    | inr value => trivial
  funext s
  obtain ⟨next, s₁, ran⟩ | ⟨value, s₁, ran⟩ | ⟨failure, s₁, ran⟩ := turn.apply_cases start s
  · obtain ⟨outcome, s', ended, -⟩ := exists_loop?_eq left step next s₁ trivial
    have ended' := (Turn.loop?_of_inl ran).trans ended
    rw [bind_of_ok ran, loop_of_some ended']
    exact (loop_of_some ended).symm
  · rw [bind_of_ok ran]
    exact loop_of_some (Turn.loop?_of_inr ran)
  · rw [bind_of_error ran]
    exact loop_of_some (Turn.loop?_of_error ran)

end Exchange

namespace Guest

variable {σ : Type} {guest : Guest σ} {s : σ} {callee : Export} {args : List Int32}

/-- A call for its effect ends as the call does. -/
theorem callUnit_ends {good : Unit → σ → Prop} {bad : Failure → σ → Prop}
    (ends : (guest.call callee args).Ends s (fun _ s' => good () s') bad) :
    (guest.callUnit callee args).Ends s good bad :=
  .bind (ends.mono (fun _ _ holds => .pure holds) fun _ _ holds => holds)

/-- A call for its result ends as the call does, if the call has a result. -/
theorem callInt_ends {good : Int32 → σ → Prop} {bad : Failure → σ → Prop}
    (ends : (guest.call callee args).Ends s
      (fun answer s' => ∃ value, answer = some value ∧ good value s') bad) :
    (guest.callInt callee args).Ends s good bad := by
  refine .bind (ends.mono ?_ fun _ _ holds => holds)
  rintro answer s' ⟨value, rfl, holds⟩
  exact .pure holds

end Guest

end FormatterHost
