import FormatterHost.Guest.Recorded
import FormatterHost.Plugin.Hosted
import FormatterHost.Proofs.Conversation
import FormatterHost.Proofs.Memory

/-!
# Records of conversations

A recorded plugin writes down what is asked of it, and no conversation takes notice of that.  So the
record of a request tells what the request does to any plugin.  `Performs` states which operations a
conversation carries out; its rules follow the ways in which conversations are put together.
-/

namespace FormatterHost

/-! ## Recorded plugins -/

/-- Without its record, a recorded plugin is the plugin itself. -/
theorem Guest.recorded_wraps {σ : Type} (guest : Guest σ) :
    guest.recorded.Wraps Recorded.guest guest where
  call _ _ _ := rfl
  read _ _ _ := rfl
  write _ _ _ := rfl

/-- What a request does to a plugin, in the order in which it happens. -/
def Guest.eventsOf {σ : Type} (guest : Guest σ) (request : Request) (s : σ) : List Event :=
  (formatWith guest.recorded request (.start s)).2.events

/-- Whatever is read has the length that was asked for. -/
def Guest.ReadsExactly {σ : Type} (guest : Guest σ) : Prop :=
  ∀ offset length s bytes s', guest.read offset length s = (.ok bytes, s') →
    bytes.length = length.toNat

theorem Guest.ReadsExactly.recorded {σ : Type} {guest : Guest σ} (exact : guest.ReadsExactly) :
    guest.recorded.ReadsExactly := by
  intro offset length r bytes r' ran
  have same := guest.recorded_wraps.read offset length r
  rw [ran] at same
  exact exact offset length r.guest bytes r'.guest same

theorem HostedPlugin.readsExactly (runtime : Wasm.Runtime) :
    (guest : Guest (HostedPlugin runtime)).ReadsExactly :=
  fun _ _ _ _ _ copied => LinearMemory.length_of_read (congrArg Prod.fst copied)

theorem ScriptedPlugin.readsExactly : ScriptedPlugin.guest.ReadsExactly :=
  fun _ _ _ _ _ copied => LinearMemory.length_of_read (congrArg Prod.fst copied)

namespace Transport

variable {σ : Type} {guest : Guest σ} {total : Nat} {received : Bytes}

/-- A turn of the receiving loop yields a byte, and none that was not asked for. -/
theorem receiveTurn_progress (exact : guest.ReadsExactly) (small : total < UInt32.size)
    (unfinished : received.length < total) :
    (receiveTurn guest total received).Answers fun chunk =>
      0 < chunk.length ∧ received.length + chunk.length ≤ total := by
  refine .after fun sizing => .after fun _ => .after fun buffer => ?_
  have positive := sizing.capacity_pos
  intro s chunk s' ran
  rw [exact _ _ s chunk s' ran, UInt32.toNat_ofNat_of_lt' (by omega)]
  omega

/-- If readings yield what they are asked for, the receiving loop takes turns until everything is
there. -/
theorem receiveChunks_eq (exact : guest.ReadsExactly) (small : total < UInt32.size)
    (received : Bytes) :
    receiveChunks guest total received =
      if received.length < total then do
        let chunk ← receiveTurn guest total received
        receiveChunks guest total (received ++ chunk)
      else
        pure received := by
  rw [receiveChunks, Exchange.loop_eq (total - ·.length)]
  · by_cases more : received.length < total
    · rw [if_pos more, if_pos more, bind_assoc]
      rfl
    · rw [if_neg more, if_neg more, pure_bind, Exchange.goOn]
  · intro received
    by_cases more : received.length < total
    · rw [if_pos more]
      refine (receiveTurn_progress exact small more).bind fun chunk progress => .pure ?_
      rintro _ ⟨⟩
      rw [List.length_append]
      omega
    · rw [if_neg more]
      exact .pure nofun

end Transport

/-! ## Operations that conversations carry out -/

section Performs

variable {σ α β : Type}

/-- Begun in any state, the conversation `x` with a recorded plugin answers, with `done` of its
answer and the operations that it carries out; or it fails, with `broken` of its failure and
those. -/
def Performs (x : Exchange (Recorded σ) α) (done : α → List Event → Prop)
    (broken : Failure → List Event → Prop) : Prop :=
  ∀ r, x.Ends r (fun value r' => ∃ events, r'.events = r.events ++ events ∧ done value events)
    (fun failure r' => ∃ events, r'.events = r.events ++ events ∧ broken failure events)

namespace Performs

variable {x : Exchange (Recorded σ) α} {f : α → Exchange (Recorded σ) β}
variable {done done' : α → List Event → Prop} {next : β → List Event → Prop}
variable {broken broken' : Failure → List Event → Prop}

theorem pure {value : α} (holds : done value []) :
    Performs (Pure.pure value : Exchange (Recorded σ) α) done broken :=
  fun r => .pure ⟨[], (List.append_nil r.events).symm, holds⟩

theorem fail {failure : Failure} (holds : broken failure []) :
    Performs (Exchange.fail failure : Exchange (Recorded σ) α) done broken :=
  fun r => .fail ⟨[], (List.append_nil r.events).symm, holds⟩

theorem mono (performs : Performs x done broken)
    (better : ∀ value events, done value events → done' value events)
    (worse : ∀ failure events, broken failure events → broken' failure events) :
    Performs x done' broken' := by
  intro r
  refine (performs r).mono ?_ ?_
  · rintro value r' ⟨events, appended, holds⟩
    exact ⟨events, appended, better value events holds⟩
  · rintro failure r' ⟨events, appended, holds⟩
    exact ⟨events, appended, worse failure events holds⟩

/-- A conversation after another: its operations come after those of the first one. -/
theorem andThen (first : Performs x done broken')
    (second : ∀ value before, done value before →
      Performs (f value) (fun answer after => next answer (before ++ after))
        (fun failure after => broken failure (before ++ after)))
    (worse : ∀ failure events, broken' failure events → broken failure events) :
    Performs (x >>= f) next broken := by
  intro r
  refine .andThen (first r) ?_ ?_
  · rintro value r' ⟨before, appended, holds⟩
    refine (second value before holds r').mono ?_ ?_
    · rintro answer r'' ⟨after, appended', holds'⟩
      exact ⟨before ++ after, by rw [appended', appended, List.append_assoc], holds'⟩
    · rintro failure r'' ⟨after, appended', holds'⟩
      exact ⟨before ++ after, by rw [appended', appended, List.append_assoc], holds'⟩
  · rintro failure r' ⟨events, appended, holds⟩
    exact ⟨events, appended, worse failure events holds⟩

theorem mapFailure {g : Failure → Failure}
    (performs : Performs x done fun failure events => broken (g failure) events) :
    Performs (x.mapFailure g) done broken :=
  fun r => .mapFailure (performs r)

theorem pointwise (runs : ∀ r, ∃ y, Performs y done broken ∧ x r = y r) :
    Performs x done broken := by
  intro r
  obtain ⟨y, performs, same⟩ := runs r
  exact .of_apply_eq same (performs r)

/-- Two statements about one conversation. -/
theorem and (first : Performs x done broken) (second : Performs x done' broken') :
    Performs x (fun value events => done value events ∧ done' value events)
      (fun failure events => broken failure events ∧ broken' failure events) := by
  intro r
  constructor
  · intro value r' ran
    obtain ⟨events, appended, holds⟩ := (first r).good_of_ok ran
    obtain ⟨events', appended', holds'⟩ := (second r).good_of_ok ran
    have same : events = events' := List.append_cancel_left (appended.symm.trans appended')
    exact ⟨events, appended, holds, same ▸ holds'⟩
  · intro failure r' ran
    obtain ⟨events, appended, holds⟩ := (first r).bad_of_error ran
    obtain ⟨events', appended', holds'⟩ := (second r).bad_of_error ran
    have same : events = events' := List.append_cancel_left (appended.symm.trans appended')
    exact ⟨events, appended, holds, same ▸ holds'⟩

/-- A single operation. -/
theorem observe {event : Except Failure α → Event} {y : Exchange σ α}
    (answered : ∀ s value s', y s = (.ok value, s') → done value [event (.ok value)])
    (failed : ∀ failure, broken failure [event (.error failure)]) :
    Performs (Recorded.observe event y) done broken := by
  intro r
  cases run : y r.guest with
  | mk outcome s' =>
      have seen : Recorded.observe event y r = (outcome, ⟨s', event outcome :: r.history⟩) := by
        simp only [Recorded.observe, run]
      have appended : (⟨s', event outcome :: r.history⟩ : Recorded σ).events =
          r.events ++ [event outcome] := List.reverse_cons
      cases outcome with
      | ok value => exact .of_ok seen ⟨_, appended, answered _ _ _ run⟩
      | error failure => exact .of_error seen ⟨_, appended, failed failure⟩

variable {guest : Guest σ}

theorem callUnit {callee : Export} {args : List Int32} {done : Unit → List Event → Prop}
    (answered : ∀ answer, done () [.call callee args (.ok answer)])
    (failed : ∀ failure, broken failure [.call callee args (.error failure)]) :
    Performs (guest.recorded.callUnit callee args) done broken :=
  fun r => Guest.callUnit_ends (observe (fun _ value _ _ => answered value) failed r)

theorem callInt {callee : Export} {args : List Int32} {done : Int32 → List Event → Prop}
    (answered : ∀ value, done value [.call callee args (.ok (some value))])
    (silent : broken (.signatureMismatch callee.name callee.signature)
      [.call callee args (.ok none)])
    (failed : ∀ failure, broken failure [.call callee args (.error failure)]) :
    Performs (guest.recorded.callInt callee args) done broken := by
  have called : Performs (guest.recorded.call callee args)
      (fun answer events => events = [.call callee args (.ok answer)]) broken :=
    observe (fun _ _ _ _ => rfl) failed
  refine called.andThen ?_ fun _ _ holds => holds
  rintro answer before rfl
  cases answer with
  | none => exact fail silent
  | some value => exact pure (answered value)

theorem read {offset length : UInt32} {done : Bytes → List Event → Prop}
    (answered : ∀ s bytes s', guest.read offset length s = (.ok bytes, s') →
      done bytes [.read offset length (.ok bytes)])
    (failed : ∀ failure, broken failure [.read offset length (.error failure)]) :
    Performs (guest.recorded.read offset length) done broken :=
  observe answered failed

theorem write {offset : UInt32} {bytes : Bytes} {done : Unit → List Event → Prop}
    (answered : done () [.write offset bytes (.ok ())])
    (failed : ∀ failure, broken failure [.write offset bytes (.error failure)]) :
    Performs (guest.recorded.write offset bytes) done broken :=
  observe (fun _ _ _ _ => answered) failed

end Performs

/-- What holds of the operations of a conversation, whatever it comes to, holds of its record. -/
theorem Performs.of_run {x : Exchange (Recorded σ) α} {P : List Event → Prop}
    (performs : Performs x (fun _ => P) fun _ => P) {s : σ} {outcome : Except Failure α}
    {r : Recorded σ} (ran : x (.start s) = (outcome, r)) : P r.events := by
  have ends := performs (.start s)
  cases outcome with
  | ok value =>
      obtain ⟨events, appended, holds⟩ := ends.good_of_ok ran
      rw [appended]
      exact holds
  | error failure =>
      obtain ⟨events, appended, holds⟩ := ends.bad_of_error ran
      rw [appended]
      exact holds

/-- What a conversation with a recorded plugin carries out goes with the outcome of the same
conversation with the plugin itself. -/
theorem Performs.outcome {x : Exchange (Recorded σ) α} {y : Exchange σ α}
    (mirrors : x.Mirrors Recorded.guest y) {done : α → List Event → Prop}
    {broken : Failure → List Event → Prop} (performs : Performs x done broken) (s : σ) :
    (∃ value, (y s).1 = .ok value ∧ done value (x (.start s)).2.events) ∨
      ∃ failure, (y s).1 = .error failure ∧ broken failure (x (.start s)).2.events := by
  have same : (y s).1 = (x (.start s)).1 := congrArg Prod.fst (mirrors (.start s))
  have ends := performs (.start s)
  rw [same]
  cases run : x (.start s) with
  | mk outcome r =>
      cases outcome with
      | ok value =>
          obtain ⟨events, appended, holds⟩ := ends.good_of_ok run
          exact .inl ⟨value, rfl, by rw [appended]; exact holds⟩
      | error failure =>
          obtain ⟨events, appended, holds⟩ := ends.bad_of_error run
          exact .inr ⟨failure, rfl, by rw [appended]; exact holds⟩

/-- What holds of the operations of every recorded request holds of those of a request, together
with its outcome. -/
theorem formatWith_performs {guest : Guest σ} {request : Request}
    {done : Output → List Event → Prop} {broken : Failure → List Event → Prop}
    (performs : Performs (formatWith guest.recorded request) done broken) (s : σ) :
    (∃ output, (formatWith guest request s).1 = .ok output ∧
      done output (guest.eventsOf request s)) ∨
      ∃ failure, (formatWith guest request s).1 = .error failure ∧
        broken failure (guest.eventsOf request s) :=
  performs.outcome (guest.recorded_wraps.formatWith request) s

end Performs

/-! ## Quiet conversations -/

/-- Whether an export is about the text of a request. -/
def Export.consults : Export → Bool
  | .format => true
  | .getFormattedText => true
  | .getErrorText => true
  | _ => false

/-- An operation that is not about the text of a request. -/
def Event.Quiet : Event → Prop
  | .call callee _ _ => callee.consults = false
  | .read _ _ _ => True
  | .write _ _ _ => True

/-- Nothing that the conversation `x` does is about the text of a request. -/
def KeepsQuiet {σ α : Type} (x : Exchange (Recorded σ) α) : Prop :=
  Performs x (fun _ events => ∀ event ∈ events, event.Quiet)
    (fun _ events => ∀ event ∈ events, event.Quiet)

namespace KeepsQuiet

variable {σ α β : Type} {guest : Guest σ}

theorem bind {x : Exchange (Recorded σ) α} {f : α → Exchange (Recorded σ) β}
    (first : KeepsQuiet x) (second : ∀ value, KeepsQuiet (f value)) : KeepsQuiet (x >>= f) := by
  refine Performs.andThen first ?_ fun _ _ quiet => quiet
  intro value before quiet
  exact (second value).mono (fun _ _ quiet' => List.forall_mem_append.mpr ⟨quiet, quiet'⟩)
    fun _ _ quiet' => List.forall_mem_append.mpr ⟨quiet, quiet'⟩

theorem ofExcept (outcome : Except Failure α) :
    KeepsQuiet (Exchange.ofExcept outcome : Exchange (Recorded σ) α) := by
  cases outcome with
  | ok value => exact Performs.pure (List.forall_mem_nil _)
  | error failure => exact Performs.fail (List.forall_mem_nil _)

theorem callInt {callee : Export} (args : List Int32) (quiet : callee.consults = false) :
    KeepsQuiet (guest.recorded.callInt callee args) :=
  Performs.callInt (fun _ => List.forall_mem_singleton.mpr quiet)
    (List.forall_mem_singleton.mpr quiet) fun _ => List.forall_mem_singleton.mpr quiet

/-- Only what is asked about a text breaks the quiet. -/
theorem inherited (guest : Guest σ) :
    Inherited guest.recorded fun _ x => KeepsQuiet x where
  pure value := ofExcept (.ok value)
  fail failure _ := ofExcept (.error failure)
  bind := bind
  pointwise := Performs.pointwise
  callUnit callee args effect := by
    have quiet : callee.consults = false := by cases callee <;> first | rfl | cases effect
    exact Performs.callUnit (fun _ => List.forall_mem_singleton.mpr quiet)
      fun _ => List.forall_mem_singleton.mpr quiet
  query := bind (callInt [] rfl) fun _ => bind (callInt [] rfl) fun _ => ofExcept _
  read _ _ :=
    Performs.read (fun _ _ _ _ => List.forall_mem_singleton.mpr trivial)
      fun _ => List.forall_mem_singleton.mpr trivial
  write _ _ :=
    Performs.write (List.forall_mem_singleton.mpr trivial)
      fun _ => List.forall_mem_singleton.mpr trivial

end KeepsQuiet

end FormatterHost
