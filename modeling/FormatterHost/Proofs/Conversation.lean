import FormatterHost.Proofs.Request

/-!
# Conversations and their operations

The parts of a request are put together from operations on the plugin.  What holds of the operations
and lasts when conversations are put together holds of every part (`Inherited`), and a plugin that
is another one with something around it makes the same conversation of every request (`Wraps`).
-/

namespace FormatterHost

/-! ## Properties that conversations inherit -/

/-- A property of conversations with a plugin that lasts when they are put together, and that their
parts have: operations, asking for the staging buffer, and failures that do not blame the plugin. -/
structure Inherited {σ : Type} (guest : Guest σ) (P : ∀ α : Type, Exchange σ α → Prop) : Prop where
  pure : ∀ {α : Type} (value : α), P α (Pure.pure value)
  fail : ∀ {α : Type} (failure : Failure), failure.isContractViolation = false →
    P α (Exchange.fail failure)
  bind : ∀ {α β : Type} {x : Exchange σ α} {f : α → Exchange σ β}, P α x →
    (∀ value, P β (f value)) → P β (x >>= f)
  /-- What holds of a conversation is what holds of its single runs. -/
  pointwise : ∀ {α : Type} {x : Exchange σ α}, (∀ s, ∃ y, P α y ∧ x s = y s) → P α x
  callUnit : ∀ callee args, callee.hasResult = false → P Unit (guest.callUnit callee args)
  query : P StagingBuffer (StagingBuffer.query guest)
  read : ∀ offset length, P Bytes (guest.read offset length)
  write : ∀ offset bytes, P Unit (guest.write offset bytes)

namespace Inherited

variable {σ : Type} {guest : Guest σ} {P : ∀ α : Type, Exchange σ α → Prop}

theorem sendChunks (inherited : Inherited guest P) (left : Bytes) :
    P Unit (Transport.sendChunks guest left) := by
  induction left using Transport.sendChunks.induct with
  | case1 left ih =>
      rw [Transport.sendChunks]
      refine inherited.bind inherited.query fun buffer => ?_
      refine inherited.bind (inherited.write _ _) fun _ => ?_
      refine inherited.bind (inherited.callUnit _ _ rfl) fun _ => ?_
      split
      · exact ih buffer ‹_›
      · exact inherited.pure ()

theorem send (inherited : Inherited guest P) (payload : Bytes) :
    P Unit (Transport.send guest payload) := by
  rw [Transport.send]
  split
  · exact inherited.fail _ rfl
  · exact inherited.bind (inherited.callUnit _ _ rfl) fun _ => inherited.sendChunks payload

section Loop

variable {α β : Type} {turn : Exchange.Turn σ β α}

theorem turns (inherited : Inherited guest P) (each : ∀ start, P (β ⊕ α) (turn start))
    (limit : Nat) (start : β) : P (Option α) (Exchange.turns turn limit start) := by
  induction limit generalizing start with
  | zero => exact inherited.pure none
  | succ limit ih =>
      refine inherited.bind (each start) fun answer => ?_
      cases answer with
      | inl next => exact ih next
      | inr value => exact inherited.pure (some value)

/-- A loop has what its turns have. -/
theorem loop (inherited : Inherited guest P) (each : ∀ start, P (β ⊕ α) (turn start))
    (start : β) : P α (Exchange.loop turn start) := by
  refine inherited.pointwise fun s => ?_
  obtain ⟨limit, same⟩ := Exchange.exists_loop_eq turn start s
  refine ⟨_, inherited.bind (inherited.turns each limit start) fun result => ?_, same⟩
  cases result with
  | some value => exact inherited.pure value
  | none => exact inherited.fail Exchange.endless rfl

end Loop

theorem receiveTurn (inherited : Inherited guest P) (total : Nat) (received : Bytes) :
    P Bytes (Transport.receiveTurn guest total received) :=
  inherited.bind inherited.query fun _ => inherited.bind (inherited.callUnit _ _ rfl) fun _ =>
    inherited.bind inherited.query fun _ => inherited.read _ _

theorem receiveChunks (inherited : Inherited guest P) (total : Nat) (received : Bytes) :
    P Bytes (Transport.receiveChunks guest total received) := by
  refine inherited.loop (fun received => ?_) received
  by_cases more : received.length < total
  · rw [if_pos more]
    exact inherited.bind (inherited.receiveTurn total received) fun _ => inherited.pure _
  · rw [if_neg more]
    exact inherited.pure _

theorem receiveText (inherited : Inherited guest P) (length : UInt32) :
    P String (Transport.receiveText guest length) := by
  rw [Transport.receiveText_eq]
  refine inherited.bind (inherited.receiveChunks _ _) fun bytes => ?_
  rcases Transport.asText_cases bytes with ⟨text, read⟩ | ⟨detail, failed⟩
  · rw [read]
    exact inherited.pure text
  · rw [failed]
    exact inherited.fail _ rfl

theorem commit (inherited : Inherited guest P) (scope : Scope) (text : String) :
    P Unit (Config.commit guest scope text) :=
  inherited.bind (inherited.send _) fun _ => inherited.callUnit _ _ (by cases scope <;> rfl)

theorem push (inherited : Inherited guest P) (patch : Patch) :
    P Unit (Config.push guest patch) := by
  rw [Config.push]
  split
  · exact inherited.fail _ rfl
  · exact inherited.bind (inherited.commit _ _) fun _ => inherited.commit _ _

theorem collect (inherited : Inherited guest P) (submitted : String) (verdict : Verdict) :
    P Output (Invocation.collect guest submitted verdict) := by
  cases verdict with
  | unchanged => exact inherited.pure _
  | formatted length =>
      exact inherited.bind (inherited.receiveText length) fun _ => inherited.pure _
  | errored length =>
      exact inherited.bind (inherited.receiveText length) fun _ => inherited.fail _ rfl
  | unknown code => exact inherited.fail _ rfl

theorem resolve (inherited : Inherited guest P)
    (stagedLength : ∀ callee, callee = .getFormattedText ∨ callee = .getErrorText →
      P UInt32 (Verdict.stagedLength guest callee)) (code : Int32) :
    P Verdict (Verdict.resolve guest code) := by
  rw [Verdict.resolve]
  split
  · exact inherited.pure _
  · split
    · exact inherited.bind (stagedLength _ (.inl rfl)) fun _ => inherited.pure _
    · split
      · exact inherited.bind (stagedLength _ (.inr rfl)) fun _ => inherited.pure _
      · exact inherited.pure _

/-- Requests inherit what their parts have. -/
theorem formatWith (inherited : Inherited guest P)
    (format : P Int32 ((guest.callInt .format []).mapFailure recoverTrap))
    (stagedLength : ∀ callee, callee = .getFormattedText ∨ callee = .getErrorText →
      P UInt32 (Verdict.stagedLength guest callee)) (request : Request) :
    P Output (FormatterHost.formatWith guest request) := by
  rw [formatWith_eq]
  refine inherited.bind (inherited.callUnit _ _ rfl) fun _ => ?_
  refine inherited.bind (inherited.push _) fun _ => ?_
  refine inherited.bind ?_ fun _ => inherited.collect _ _
  refine inherited.bind (inherited.send _) fun _ => ?_
  refine inherited.bind (inherited.callUnit _ _ rfl) fun _ => ?_
  refine inherited.bind (inherited.send _) fun _ => ?_
  exact inherited.bind format fun code => inherited.resolve stagedLength code

end Inherited

/-! ## Conversations with a plugin seen from afar -/

/-- The conversation `x` is `y`, once states are seen through `f`. -/
def Exchange.Mirrors {σ τ α : Type} (f : τ → σ) (x : Exchange τ α) (y : Exchange σ α) : Prop :=
  ∀ t, y (f t) = ((x t).1, f (x t).2)

/-- The plugin `wrapped` is `plain`, once its states are seen through `f`. -/
structure Guest.Wraps {σ τ : Type} (f : τ → σ) (wrapped : Guest τ) (plain : Guest σ) : Prop where
  call : ∀ callee args, (wrapped.call callee args).Mirrors f (plain.call callee args)
  read : ∀ offset length, (wrapped.read offset length).Mirrors f (plain.read offset length)
  write : ∀ offset bytes, (wrapped.write offset bytes).Mirrors f (plain.write offset bytes)

namespace Exchange.Mirrors

variable {σ τ α β : Type} {f : τ → σ} {x : Exchange τ α} {y : Exchange σ α}

theorem ofExcept (outcome : Except Failure α) :
    (Exchange.ofExcept outcome).Mirrors f (Exchange.ofExcept outcome) :=
  fun _ => rfl

theorem fail (failure : Failure) :
    (Exchange.fail failure : Exchange τ α).Mirrors f (Exchange.fail failure) :=
  ofExcept (.error failure)

theorem pure (value : α) : (Pure.pure value : Exchange τ α).Mirrors f (Pure.pure value) :=
  ofExcept (.ok value)

theorem bind {k : α → Exchange τ β} {l : α → Exchange σ β} (first : x.Mirrors f y)
    (second : ∀ value, (k value).Mirrors f (l value)) : (x >>= k).Mirrors f (y >>= l) := by
  intro t
  have same := first t
  cases run : x t with
  | mk outcome t' =>
      rw [run] at same
      cases outcome with
      | ok value =>
          rw [bind_of_ok run, bind_of_ok same]
          exact second value t'
      | error failure => rw [bind_of_error run, bind_of_error same]

theorem mapFailure {g : Failure → Failure} (mirrors : x.Mirrors f y) :
    (x.mapFailure g).Mirrors f (y.mapFailure g) := by
  intro t
  have same := mirrors t
  cases run : x t with
  | mk outcome t' =>
      rw [run] at same
      cases outcome with
      | ok value => simp only [Exchange.mapFailure, run, same]
      | error failure => simp only [Exchange.mapFailure, run, same]

section Loop

variable {k : Turn τ β α} {l : Turn σ β α}

theorem turns (each : ∀ start, (k start).Mirrors f (l start)) (limit : Nat) (start : β) :
    (Exchange.turns k limit start).Mirrors f (Exchange.turns l limit start) := by
  induction limit generalizing start with
  | zero => exact .pure none
  | succ limit ih =>
      refine .bind (each start) fun answer => ?_
      cases answer with
      | inl next => exact ih next
      | inr value => exact .pure (some value)

/-- Loops of such turns end together or not at all. -/
theorem loop (each : ∀ start, (k start).Mirrors f (l start)) (start : β) :
    (Exchange.loop k start).Mirrors f (Exchange.loop l start) := by
  intro t
  cases ended : k.loop? start t with
  | some result =>
      obtain ⟨outcome, t'⟩ := result
      obtain ⟨limit, limited⟩ := Turn.loop?_eq_some_iff.mp ended
      have same := turns each limit start t
      rw [limited] at same
      rw [loop_of_some ended]
      exact loop_of_some (Turn.loop?_eq_some_iff.mpr ⟨limit, same⟩)
  | none =>
      rw [loop_of_none ended]
      cases ended' : l.loop? start (f t) with
      | none => exact loop_of_none ended'
      | some result =>
          obtain ⟨outcome, s'⟩ := result
          obtain ⟨limit, limited⟩ := Turn.loop?_eq_some_iff.mp ended'
          have same := limited.symm.trans (turns each limit start t)
          have run : Exchange.turns k limit start t =
              (outcome.map some, (Exchange.turns k limit start t).2) :=
            Prod.ext (congrArg Prod.fst same).symm rfl
          rw [Turn.loop?_eq_some_iff.mpr ⟨limit, run⟩] at ended
          cases ended

end Loop

/-- What `y` comes to, `x` comes to as it is seen through `f`. -/
theorem ends {good : α → σ → Prop} {bad : Failure → σ → Prop} {t : τ} (mirrors : x.Mirrors f y)
    (plain : y.Ends (f t) good bad) :
    x.Ends t (fun value t' => good value (f t')) (fun failure t' => bad failure (f t')) where
  good_of_ok run := plain.good_of_ok (by rw [mirrors, run])
  bad_of_error run := plain.bad_of_error (by rw [mirrors, run])

end Exchange.Mirrors

namespace Guest.Wraps

open Exchange (Mirrors)

variable {σ τ : Type} {f : τ → σ} {wrapped : Guest τ} {plain : Guest σ}

theorem callUnit (wraps : wrapped.Wraps f plain) (callee : Export) (args : List Int32) :
    Mirrors f (wrapped.callUnit callee args) (plain.callUnit callee args) :=
  .bind (wraps.call callee args) fun _ => .pure ()

theorem callInt (wraps : wrapped.Wraps f plain) (callee : Export) (args : List Int32) :
    Mirrors f (wrapped.callInt callee args) (plain.callInt callee args) := by
  refine .bind (wraps.call callee args) ?_
  intro answer
  cases answer with
  | none => exact .fail _
  | some value => exact .pure value

theorem query (wraps : wrapped.Wraps f plain) :
    Mirrors f (StagingBuffer.query wrapped) (StagingBuffer.query plain) :=
  .bind (wraps.callInt .stagingCapacity []) fun _ =>
    .bind (wraps.callInt .stagingOffset []) fun _ => .ofExcept _

theorem sendChunks (wraps : wrapped.Wraps f plain) (left : Bytes) :
    Mirrors f (Transport.sendChunks wrapped left) (Transport.sendChunks plain left) := by
  induction left using Transport.sendChunks.induct with
  | case1 left ih =>
      rw [Transport.sendChunks, Transport.sendChunks]
      refine .bind wraps.query fun buffer => ?_
      refine .bind (wraps.write _ _) fun _ => .bind (wraps.callUnit _ _) fun _ => ?_
      by_cases more : min left.length buffer.capacity.toNat < left.length
      · rw [if_pos more, if_pos more]
        exact ih buffer more
      · rw [if_neg more, if_neg more]
        exact .pure ()

theorem send (wraps : wrapped.Wraps f plain) (payload : Bytes) :
    Mirrors f (Transport.send wrapped payload) (Transport.send plain payload) := by
  rw [Transport.send, Transport.send]
  by_cases long : Transport.maxPayload < payload.length
  · rw [if_pos long, if_pos long]
    exact .fail _
  · rw [if_neg long, if_neg long]
    exact .bind (wraps.callUnit _ _) fun _ => wraps.sendChunks payload

theorem receiveTurn (wraps : wrapped.Wraps f plain) (total : Nat) (received : Bytes) :
    Mirrors f (Transport.receiveTurn wrapped total received)
      (Transport.receiveTurn plain total received) :=
  .bind wraps.query fun _ => .bind (wraps.callUnit _ _) fun _ =>
    .bind wraps.query fun _ => wraps.read _ _

theorem receiveChunks (wraps : wrapped.Wraps f plain) (total : Nat) (received : Bytes) :
    Mirrors f (Transport.receiveChunks wrapped total received)
      (Transport.receiveChunks plain total received) := by
  refine .loop (fun received => ?_) received
  by_cases more : received.length < total
  · rw [if_pos more, if_pos more]
    exact .bind (wraps.receiveTurn total received) fun _ => .pure _
  · rw [if_neg more, if_neg more]
    exact .pure _

theorem receiveText (wraps : wrapped.Wraps f plain) (length : UInt32) :
    Mirrors f (Transport.receiveText wrapped length) (Transport.receiveText plain length) := by
  rw [Transport.receiveText_eq, Transport.receiveText_eq]
  exact .bind (wraps.receiveChunks _ _) fun _ => .ofExcept _

theorem commit (wraps : wrapped.Wraps f plain) (scope : Scope) (text : String) :
    Mirrors f (Config.commit wrapped scope text) (Config.commit plain scope text) :=
  .bind (wraps.send _) fun _ => wraps.callUnit _ _

theorem push (wraps : wrapped.Wraps f plain) (patch : Patch) :
    Mirrors f (Config.push wrapped patch) (Config.push plain patch) := by
  rw [Config.push, Config.push]
  cases patch.globalConfig.problem? with
  | some problem => exact .fail _
  | none => exact .bind (wraps.commit _ _) fun _ => wraps.commit _ _

theorem stagedLength (wraps : wrapped.Wraps f plain) (report : Export) :
    Mirrors f (Verdict.stagedLength wrapped report) (Verdict.stagedLength plain report) := by
  refine .bind (wraps.callInt report []) fun length => ?_
  by_cases nonneg : 0 ≤ length
  · rw [if_pos nonneg, if_pos nonneg]
    exact .pure _
  · rw [if_neg nonneg, if_neg nonneg]
    exact .fail _

theorem resolve (wraps : wrapped.Wraps f plain) (code : Int32) :
    Mirrors f (Verdict.resolve wrapped code) (Verdict.resolve plain code) := by
  rw [Verdict.resolve, Verdict.resolve]
  split
  · exact .pure _
  · split
    · exact .bind (wraps.stagedLength _) fun _ => .pure _
    · split
      · exact .bind (wraps.stagedLength _) fun _ => .pure _
      · exact .pure _

theorem submit (wraps : wrapped.Wraps f plain) (path text : String) :
    Mirrors f (Invocation.submit wrapped path text) (Invocation.submit plain path text) :=
  .bind (wraps.send _) fun _ => .bind (wraps.callUnit _ _) fun _ =>
    .bind (wraps.send _) fun _ => .bind (.mapFailure (wraps.callInt _ _)) fun _ =>
      wraps.resolve _

theorem collect (wraps : wrapped.Wraps f plain) (submitted : String) (verdict : Verdict) :
    Mirrors f (Invocation.collect wrapped submitted verdict)
      (Invocation.collect plain submitted verdict) := by
  cases verdict with
  | unchanged => exact .pure _
  | formatted length => exact .bind (wraps.receiveText length) fun _ => .pure _
  | errored length => exact .bind (wraps.receiveText length) fun _ => .fail _
  | unknown code => exact .fail _

/-- Requests take no notice of what is not seen of a plugin. -/
theorem formatWith (wraps : wrapped.Wraps f plain) (request : Request) :
    Mirrors f (FormatterHost.formatWith wrapped request)
      (FormatterHost.formatWith plain request) := by
  rw [formatWith_eq, formatWith_eq]
  exact .bind (wraps.callUnit _ _) fun _ => .bind (wraps.push _) fun _ =>
    .bind (wraps.submit _ _) fun _ => wraps.collect _ _

/-- A plugin conforms if it is a conforming one with something around it. -/
theorem conforms {mishap : σ → Prop} {view : σ → Option PluginView} {formatter : Formatter}
    (wraps : wrapped.Wraps f plain) (conforms : Conforms mishap plain view formatter) :
    Conforms (fun t => mishap (f t)) wrapped (fun t => view (f t)) formatter where
  capacity _ p seen := (wraps.call _ _).ends (conforms.capacity _ p seen)
  offset _ p seen := (wraps.call _ _).ends (conforms.offset _ p seen)
  read _ p seen offset length fits :=
    (wraps.read _ _).ends (conforms.read _ p seen offset length fits)
  write _ p seen offset bytes start le :=
    (wraps.write _ _).ends (conforms.write _ p seen offset bytes start le)
  clear _ p seen total nonneg := (wraps.call _ _).ends (conforms.clear _ p seen total nonneg)
  append _ p seen count nonneg le room :=
    (wraps.call _ _).ends (conforms.append _ p seen count nonneg le room)
  stage _ p seen start count startNonneg nonneg le there :=
    (wraps.call _ _).ends (conforms.stage _ p seen start count startNonneg nonneg le there)
  reset _ p seen := (wraps.call _ _).ends (conforms.reset _ p seen)
  keep _ p seen slot text shared :=
    (wraps.call _ _).ends (conforms.keep _ p seen slot text shared)
  announce _ p seen short callee reports :=
    (wraps.call _ _).ends (conforms.announce _ p seen short callee reports)
  format _ p seen path globalConfig pluginConfig text kept shared short := by
    have ends := (wraps.call _ _).ends
      (conforms.format _ p seen path globalConfig pluginConfig text kept shared short)
    refine ends.mono ?_ ?_
    · rintro answer t' ⟨code, report, p', replied, answered, seen', reported⟩
      exact ⟨code, report, p', replied, answered, seen', reported⟩
    · rintro failure t' (⟨detail, p', replied, failed, seen'⟩ | slipped)
      · exact .inl ⟨detail, p', replied, failed, seen'⟩
      · exact .inr slipped

end Guest.Wraps

end FormatterHost
