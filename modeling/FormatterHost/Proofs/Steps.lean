import FormatterHost.Proofs.Recording

/-!
# Steps in any order

A caller can take the steps of an invocation in any order, and as often as it likes.  Each step is
taken at one stage only; at any other stage it is refused before anything is asked of the plugin.  A
stage is left once and never returned to, so a step that has succeeded never succeeds again.
-/

namespace FormatterHost

variable {σ : Type}

/-! ## Steps -/

/-- A step of an invocation. -/
inductive Step where
  | applyConfig (patch : Patch)
  | invoke (path text : String)
  | resolve (submitted : String)

/-- What a step that succeeds answers. -/
inductive Answer where
  | applied
  | judged (verdict : Verdict)
  | resolved (output : Output)

namespace Step

/-- Takes a step. -/
def take (guest : Guest σ) : Step → Exchange (Invocation σ) Answer
  | applyConfig patch => do
    Invocation.applyConfig guest patch
    return .applied
  | invoke path text => return .judged (← Invocation.invoke guest path text)
  | resolve submitted => return .resolved (← Invocation.resolve guest submitted)

/-- Whether a stage is the one at which the step is taken. -/
def fits : Step → Stage → Bool
  | applyConfig _, .idle => true
  | invoke _ _, .configured => true
  | resolve _, .invoked _ => true
  | _, _ => false

end Step

/-- A step with all that came of it. -/
structure Turn (σ : Type) where
  step : Step
  before : Invocation σ
  events : List Event
  outcome : Except Failure Answer
  after : Invocation σ

/-- Takes a step of an invocation, and writes down what it does to the plugin. -/
def Step.turn (guest : Guest σ) (step : Step) (s : Invocation σ) : Turn σ :=
  let (outcome, r) := step.take guest.recorded ⟨.start s.plugin, s.stage⟩
  ⟨step, s, r.plugin.events, outcome, ⟨r.plugin.guest, r.stage⟩⟩

/-- Takes one step after another, whatever comes of them. -/
def turns (guest : Guest σ) : List Step → Invocation σ → List (Turn σ)
  | [], _ => []
  | step :: steps, s =>
    let turn := step.turn guest s
    turn :: turns guest steps turn.after

/-! ## What a step can do -/

namespace Invocation

variable {α τ : Type} {expected : Stage} {next : α → Stage} {s : Invocation σ}

/-- A conversation is refused, or it leads on, or it fails and the stage remains. -/
theorem advance_cases (expected : Stage) (next : α → Stage) (x : Exchange σ α) (s : Invocation σ) :
    (s.stage ≠ expected ∧ ∃ detail, advance expected next x s = (.error (.internal detail), s)) ∨
      s.stage = expected ∧
        ((∃ value plugin, x s.plugin = (.ok value, plugin) ∧
            advance expected next x s = (.ok value, ⟨plugin, next value⟩)) ∨
          ∃ failure plugin, x s.plugin = (.error failure, plugin) ∧
            advance expected next x s = (.error failure, ⟨plugin, expected⟩)) := by
  obtain ⟨plugin, stage⟩ := s
  by_cases there : stage = expected
  · subst there
    refine .inr ⟨rfl, ?_⟩
    cases ran : x plugin with
    | mk outcome plugin' =>
        cases outcome with
        | ok value => exact .inl ⟨value, plugin', rfl, advance_of_ok ran⟩
        | error failure => exact .inr ⟨failure, plugin', rfl, advance_of_error ran⟩
  · exact .inl ⟨there, _, if_neg there⟩

/-- A result is refused, or the plugin is asked for it and the invocation is resolved. -/
theorem resolve_cases (guest : Guest σ) (submitted : String) (s : Invocation σ) :
    ((∀ verdict, s.stage ≠ .invoked verdict) ∧
        ∃ detail, resolve guest submitted s = (.error (.internal detail), s)) ∨
      ∃ verdict outcome plugin, s.stage = .invoked verdict ∧
        collect guest submitted verdict s.plugin = (outcome, plugin) ∧
        resolve guest submitted s = (outcome, ⟨plugin, .resolved⟩) := by
  obtain ⟨plugin, stage⟩ := s
  cases stage with
  | invoked verdict => exact .inr ⟨verdict, _, _, rfl, rfl, rfl⟩
  | _ => exact .inl ⟨nofun, _, rfl⟩

end Invocation

/-- What a turn can be. -/
inductive Turn.Lawful : Turn σ → Prop where
  | refused {step : Step} {s : Invocation σ} (detail : String)
      (unfit : step.fits s.stage = false) :
      Lawful ⟨step, s, [], .error (.internal detail), s⟩
  | applied (patch : Patch) {plugin plugin' : σ} {events : List Event}
      (quiet : ∀ event ∈ events, event.Quiet) :
      Lawful ⟨.applyConfig patch, ⟨plugin, .idle⟩, events, .ok .applied, ⟨plugin', .configured⟩⟩
  | unapplied (patch : Patch) (failure : Failure) {plugin plugin' : σ} {events : List Event}
      (quiet : ∀ event ∈ events, event.Quiet) :
      Lawful ⟨.applyConfig patch, ⟨plugin, .idle⟩, events, .error failure, ⟨plugin', .idle⟩⟩
  | judged (path text : String) (verdict : Verdict) {plugin plugin' : σ} {events : List Event} :
      Lawful ⟨.invoke path text, ⟨plugin, .configured⟩, events, .ok (.judged verdict),
        ⟨plugin', .invoked verdict⟩⟩
  | unjudged (path text : String) (failure : Failure) {plugin plugin' : σ} {events : List Event} :
      Lawful ⟨.invoke path text, ⟨plugin, .configured⟩, events, .error failure,
        ⟨plugin', .configured⟩⟩
  | resolved (submitted : String) (verdict : Verdict) (outcome : Except Failure Output)
      {plugin plugin' : σ} {events : List Event} (quiet : ∀ event ∈ events, event.Quiet) :
      Lawful ⟨.resolve submitted, ⟨plugin, .invoked verdict⟩, events, outcome.map .resolved,
        ⟨plugin', .resolved⟩⟩

theorem Step.turn_of_take {guest : Guest σ} {step : Step} {s : Invocation σ} {r : Recorded σ}
    {outcome : Except Failure Answer} {stage : Stage}
    (taken : step.take guest.recorded ⟨.start s.plugin, s.stage⟩ = (outcome, ⟨r, stage⟩)) :
    step.turn guest s = ⟨step, s, r.events, outcome, ⟨r.guest, stage⟩⟩ := by
  rw [turn, taken]

theorem Step.lawful_of_refused {guest : Guest σ} {step : Step} {s : Invocation σ} {detail : String}
    (unfit : step.fits s.stage = false)
    (refused : step.take guest.recorded ⟨.start s.plugin, s.stage⟩ =
      (.error (.internal detail), ⟨.start s.plugin, s.stage⟩)) : (step.turn guest s).Lawful := by
  rw [turn_of_take refused]
  exact .refused detail unfit

/-- Every step is refused, or does what its stage allows. -/
theorem Step.turn_lawful (guest : Guest σ) (step : Step) (s : Invocation σ) :
    (step.turn guest s).Lawful := by
  have inherited := KeepsQuiet.inherited guest
  obtain ⟨plugin, stage⟩ := s
  cases step with
  | applyConfig patch =>
      have quiet : KeepsQuiet (do
          guest.recorded.callUnit .resetConfig []
          Config.push guest.recorded patch) :=
        .bind (inherited.callUnit _ _ rfl) fun _ => inherited.push patch
      rcases Invocation.advance_cases .idle (fun _ => .configured) (do
          guest.recorded.callUnit .resetConfig []
          Config.push guest.recorded patch) ⟨.start plugin, stage⟩ with
        ⟨unfit, detail, refused⟩ | ⟨rfl, ⟨value, r, ran, led⟩ | ⟨failure, r, ran, led⟩⟩
      · refine lawful_of_refused ?_ (Exchange.bind_of_error refused)
        cases stage <;> first | rfl | exact absurd rfl unfit
      · rw [turn_of_take (Exchange.bind_of_ok led)]
        exact .applied patch (Performs.of_run quiet ran)
      · rw [turn_of_take (Exchange.bind_of_error led)]
        exact .unapplied patch failure (Performs.of_run quiet ran)
  | invoke path text =>
      rcases Invocation.advance_cases .configured .invoked
          (Invocation.submit guest.recorded path text) ⟨.start plugin, stage⟩ with
        ⟨unfit, detail, refused⟩ | ⟨rfl, ⟨value, r, -, led⟩ | ⟨failure, r, -, led⟩⟩
      · refine lawful_of_refused ?_ (Exchange.bind_of_error refused)
        cases stage <;> first | rfl | exact absurd rfl unfit
      · rw [turn_of_take (Exchange.bind_of_ok led)]
        exact .judged path text value
      · rw [turn_of_take (Exchange.bind_of_error led)]
        exact .unjudged path text failure
  | resolve submitted =>
      rcases Invocation.resolve_cases guest.recorded submitted ⟨.start plugin, stage⟩ with
        ⟨unfit, detail, refused⟩ | ⟨verdict, outcome, r, rfl, ran, resolved⟩
      · refine lawful_of_refused ?_ (Exchange.bind_of_error refused)
        cases stage <;> first | rfl | exact absurd rfl (unfit _)
      · have quiet := Performs.of_run (inherited.collect submitted verdict) ran
        cases outcome with
        | ok output =>
            rw [turn_of_take (Exchange.bind_of_ok resolved)]
            exact .resolved submitted verdict (.ok output) quiet
        | error failure =>
            rw [turn_of_take (Exchange.bind_of_error resolved)]
            exact .resolved submitted verdict (.error failure) quiet

/-! ## Plugins whose steps are written down -/

section Mirrors

open Exchange (Mirrors)

variable {τ α : Type} {f : τ → σ} {wrapped : Guest τ} {plain : Guest σ}

/-- An invocation whose plugin is seen through `f`. -/
def Invocation.seen (f : τ → σ) (s : Invocation τ) : Invocation σ :=
  ⟨f s.plugin, s.stage⟩

theorem Invocation.advance_mirrors {expected : Stage} {next : α → Stage} {x : Exchange τ α}
    {y : Exchange σ α} (mirrors : x.Mirrors f y) :
    Mirrors (seen f) (advance expected next x) (advance expected next y) := by
  rintro ⟨plugin, stage⟩
  have same := mirrors plugin
  by_cases there : stage = expected
  · subst there
    cases ran : x plugin with
    | mk outcome plugin' =>
        rw [ran] at same
        cases outcome with
        | ok value => rw [seen, advance_of_ok ran, advance_of_ok same, seen]
        | error failure => rw [seen, advance_of_error ran, advance_of_error same, seen]
  · rw [advance, advance, seen, if_neg there, if_neg there, seen]

theorem Invocation.resolve_mirrors (wraps : wrapped.Wraps f plain) (submitted : String) :
    Mirrors (seen f) (resolve wrapped submitted) (resolve plain submitted) := by
  rintro ⟨plugin, stage⟩
  cases stage with
  | invoked verdict =>
      have same := wraps.collect submitted verdict plugin
      simp only [seen, resolve, same]
  | _ => rfl

/-- A step takes no notice of what is not seen of a plugin. -/
theorem Step.take_mirrors (wraps : wrapped.Wraps f plain) (step : Step) :
    Mirrors (Invocation.seen f) (step.take wrapped) (step.take plain) := by
  cases step with
  | applyConfig patch =>
      exact .bind (Invocation.advance_mirrors
        (.bind (wraps.callUnit _ _) fun _ => wraps.push patch)) fun _ => .pure _
  | invoke path text =>
      exact .bind (Invocation.advance_mirrors (wraps.submit path text)) fun _ => .pure _
  | resolve submitted =>
      exact .bind (Invocation.resolve_mirrors wraps submitted) fun _ => .pure _

/-- What is written down of a step is what it does. -/
theorem Step.take_eq (guest : Guest σ) (step : Step) (s : Invocation σ) :
    step.take guest s = ((step.turn guest s).outcome, (step.turn guest s).after) :=
  take_mirrors guest.recorded_wraps step ⟨.start s.plugin, s.stage⟩

end Mirrors

/-! ## Courses of steps -/

/-- A course of turns: each of them is what the plugin does, is lawful, and starts where the one
before it ended. -/
inductive Course (guest : Guest σ) : Invocation σ → List (Turn σ) → Invocation σ → Prop where
  | done (s : Invocation σ) : Course guest s [] s
  | turn {turn : Turn σ} {log : List (Turn σ)} {final : Invocation σ}
      (taken : turn.step.take guest turn.before = (turn.outcome, turn.after))
      (lawful : turn.Lawful) (goesOn : Course guest turn.after log final) :
      Course guest turn.before (turn :: log) final

/-- Steps in any order make a course. -/
theorem exists_course (guest : Guest σ) (steps : List Step) (s : Invocation σ) :
    ∃ final, Course guest s (turns guest steps s) final := by
  induction steps generalizing s with
  | nil => exact ⟨s, .done s⟩
  | cons step steps ih =>
      obtain ⟨final, goesOn⟩ := ih (step.turn guest s).after
      have taken := step.take_eq guest s
      exact ⟨final, .turn taken (step.turn_lawful guest s) goesOn⟩

@[simp] theorem map_step_turns (guest : Guest σ) (steps : List Step) (s : Invocation σ) :
    (turns guest steps s).map Turn.step = steps := by
  induction steps generalizing s with
  | nil => rfl
  | cons step steps ih => exact congrArg (step :: ·) (ih (step.turn guest s).after)

/-- The place of a stage among the stages. -/
def Stage.rank : Stage → Nat
  | idle => 0
  | configured => 1
  | invoked _ => 2
  | resolved => 3

namespace Turn

/-- Whether a turn configures the plugin. -/
def configures (turn : Turn σ) : Bool :=
  match turn.outcome with
  | .ok .applied => true
  | _ => false

/-- Whether a turn gets a verdict. -/
def judges (turn : Turn σ) : Bool :=
  match turn.outcome with
  | .ok (.judged _) => true
  | _ => false

/-- Whether a turn resolves the invocation. -/
def resolves (turn : Turn σ) : Bool :=
  match turn.step with
  | .resolve _ => turn.step.fits turn.before.stage
  | _ => false

/-- Whether a turn leads past the stages below `place`. -/
def Crosses (turn : Turn σ) (place : Nat) : Prop :=
  turn.before.stage.rank < place ∧ place ≤ turn.after.stage.rank

namespace Lawful

variable {turn : Turn σ}

theorem rank_le (lawful : turn.Lawful) : turn.before.stage.rank ≤ turn.after.stage.rank := by
  cases lawful with
  | refused detail unfit => exact Nat.le_refl _
  | applied patch quiet => exact Nat.zero_le 1
  | unapplied patch failure quiet => exact Nat.le_refl 0
  | judged path text verdict => exact Nat.le_succ 1
  | unjudged path text failure => exact Nat.le_refl 1
  | resolved submitted verdict outcome quiet => exact Nat.le_succ 2

theorem configures_iff (lawful : turn.Lawful) : turn.configures = true ↔ turn.Crosses 1 := by
  cases lawful with
  | resolved submitted verdict outcome quiet =>
      cases outcome <;> simp [configures, Crosses, Stage.rank, Except.map]
  | _ => simp [configures, Crosses, Stage.rank]

theorem judges_iff (lawful : turn.Lawful) : turn.judges = true ↔ turn.Crosses 2 := by
  cases lawful with
  | resolved submitted verdict outcome quiet =>
      cases outcome <;> simp [judges, Crosses, Stage.rank, Except.map]
  | _ => simp [judges, Crosses, Stage.rank]

theorem resolves_iff (lawful : turn.Lawful) : turn.resolves = true ↔ turn.Crosses 3 := by
  cases lawful with
  | @refused step s detail unfit =>
      cases step <;> simp [resolves, unfit, Crosses]
  | _ => simp [resolves, Step.fits, Crosses, Stage.rank]

/-- A text is formatted only where a verdict is due. -/
theorem invokes_of_loud (lawful : turn.Lawful) {event : Event} (mem : event ∈ turn.events)
    (loud : ¬ event.Quiet) :
    (∃ path text, turn.step = .invoke path text) ∧ turn.before.stage = .configured := by
  cases lawful with
  | refused detail unfit => cases mem
  | applied patch quiet => exact absurd (quiet event mem) loud
  | unapplied patch failure quiet => exact absurd (quiet event mem) loud
  | judged path text verdict => exact ⟨⟨path, text, rfl⟩, rfl⟩
  | unjudged path text failure => exact ⟨⟨path, text, rfl⟩, rfl⟩
  | resolved submitted verdict outcome quiet => exact absurd (quiet event mem) loud

/-- An invocation is resolved only where there is a verdict. -/
theorem stages_of_resolves (lawful : turn.Lawful) (resolves : turn.resolves = true) :
    (∃ verdict, turn.before.stage = .invoked verdict) ∧ turn.after.stage = .resolved := by
  have crosses := lawful.resolves_iff.mp resolves
  cases lawful with
  | refused detail unfit => exact absurd crosses.1 (Nat.not_lt.mpr crosses.2)
  | resolved submitted verdict outcome quiet => exact ⟨⟨verdict, rfl⟩, rfl⟩
  | _ => cases resolves

/-- Nothing is done once the invocation is resolved. -/
theorem refused_of_resolved (lawful : turn.Lawful) (resolved : turn.before.stage = .resolved) :
    turn.events = [] ∧ (∃ detail, turn.outcome = .error (.internal detail)) ∧
      turn.after = turn.before := by
  cases lawful with
  | refused detail unfit => exact ⟨rfl, ⟨detail, rfl⟩, rfl⟩
  | _ => cases resolved

end Lawful

end Turn

namespace Course

variable {guest : Guest σ} {s final : Invocation σ} {log earlier later : List (Turn σ)}
variable {turn : Turn σ}

theorem rank_le (course : Course guest s log final) : s.stage.rank ≤ final.stage.rank := by
  induction course with
  | done s => exact Nat.le_refl _
  | turn taken lawful goesOn ih => exact Nat.le_trans lawful.rank_le ih

/-- No turn of a course can lead past a place that another one has led past. -/
theorem countP_eq (course : Course guest s log final) {place : Nat} {p : Turn σ → Bool}
    (crosses : ∀ turn : Turn σ, turn.Lawful → (p turn = true ↔ turn.Crosses place)) :
    log.countP p = if s.stage.rank < place ∧ place ≤ final.stage.rank then 1 else 0 := by
  induction course with
  | done s =>
      rw [if_neg (by omega)]
      rfl
  | @turn turn log final taken lawful goesOn ih =>
      have first := lawful.rank_le
      have rest := goesOn.rank_le
      have crossed := crosses turn lawful
      rw [Turn.Crosses] at crossed
      rw [List.countP_cons, ih]
      -- Ranks only grow, so the place is passed by this turn, before it or after it.
      by_cases now : p turn = true
      · have := crossed.mp now
        rw [if_pos now, if_neg (by omega), if_pos (by omega)]
      · have := mt crossed.mpr now
        rw [if_neg now]
        split <;> split <;> omega

theorem split (course : Course guest s (earlier ++ turn :: later) final) :
    Course guest s earlier turn.before ∧ turn.Lawful ∧ Course guest turn.after later final := by
  induction earlier generalizing s with
  | nil =>
      cases course with
      | turn taken lawful goesOn => exact ⟨.done _, lawful, goesOn⟩
  | cons first earlier ih =>
      cases course with
      | turn taken lawful goesOn =>
          obtain ⟨before, here, after⟩ := ih goesOn
          exact ⟨.turn taken lawful before, here, after⟩

/-- Once an invocation is resolved, every step is refused. -/
theorem refused_of_resolved (course : Course guest s log final) (resolved : s.stage = .resolved) :
    ∀ turn ∈ log, turn.events = [] ∧ ∃ detail, turn.outcome = .error (.internal detail) := by
  induction course with
  | done s => exact List.forall_mem_nil _
  | turn taken lawful goesOn ih =>
      obtain ⟨nothing, refused, same⟩ := lawful.refused_of_resolved resolved
      rw [← same] at resolved
      exact List.forall_mem_cons.mpr ⟨⟨nothing, refused⟩, ih resolved⟩

end Course

/-- Steps in any order and number take an invocation through its stages once at most.  The text is
formatted after the plugin has been configured and before there is a verdict, and nothing is done
after the invocation has been resolved. -/
theorem turns_follow_stages (guest : Guest σ) (steps : List Step) (plugin : σ) :
    (∃ final, Course guest (.start plugin) (turns guest steps (.start plugin)) final) ∧
      (turns guest steps (.start plugin)).map Turn.step = steps ∧
      (turns guest steps (.start plugin)).countP Turn.configures ≤ 1 ∧
      (turns guest steps (.start plugin)).countP Turn.judges ≤ 1 ∧
      (turns guest steps (.start plugin)).countP Turn.resolves ≤ 1 ∧
      ∀ earlier turn later, turns guest steps (.start plugin) = earlier ++ turn :: later →
        (∀ args outcome, .call .format args outcome ∈ turn.events →
          (∃ path text, turn.step = .invoke path text) ∧
            earlier.countP Turn.configures = 1 ∧ earlier.countP Turn.judges = 0) ∧
        (turn.resolves = true → earlier.countP Turn.judges = 1 ∧ ∀ other ∈ later,
          other.events = [] ∧ ∃ detail, other.outcome = .error (.internal detail)) := by
  obtain ⟨final, course⟩ := exists_course guest steps (.start plugin)
  have atMostOnce : ∀ {place p},
      (∀ turn : Turn σ, turn.Lawful → (p turn = true ↔ turn.Crosses place)) →
      (turns guest steps (.start plugin)).countP p ≤ 1 := by
    intro place p crosses
    rw [course.countP_eq crosses]
    split <;> omega
  refine ⟨⟨final, course⟩, ?_, atMostOnce fun _ => Turn.Lawful.configures_iff,
    atMostOnce fun _ => Turn.Lawful.judges_iff, atMostOnce fun _ => Turn.Lawful.resolves_iff, ?_⟩
  · exact map_step_turns guest steps _
  · intro earlier turn later same
    rw [same] at course
    obtain ⟨before, lawful, after⟩ := course.split
    -- The stage before the turn tells how often each place was passed in the turns before it.
    constructor
    · intro args outcome mem
      obtain ⟨invokes, configured⟩ := lawful.invokes_of_loud mem nofun
      refine ⟨invokes, ?_, ?_⟩
      · rw [before.countP_eq fun _ => Turn.Lawful.configures_iff, configured]
        rfl
      · rw [before.countP_eq fun _ => Turn.Lawful.judges_iff, configured]
        rfl
    · intro resolves
      obtain ⟨⟨verdict, invoked⟩, resolved⟩ := lawful.stages_of_resolves resolves
      refine ⟨?_, after.refused_of_resolved resolved⟩
      rw [before.countP_eq fun _ => Turn.Lawful.judges_iff, invoked]
      rfl

end FormatterHost
