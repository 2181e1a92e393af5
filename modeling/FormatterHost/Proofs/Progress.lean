import Mathlib.Algebra.GroupWithZero.Nat
import FormatterHost.Proofs.Retrieval

/-!
# Requests come to an end

A plugin chooses the size of every chunk, but it cannot choose zero.  So every turn of a transfer
moves a byte or ends the transfer, and a loop that may take no more turns than there are bytes to
move does what the unlimited loop does.  The operations of a request are numbered accordingly: by
the lengths of what is sent and of the report that is announced.
-/

namespace FormatterHost

/-! ## Every turn moves a byte -/

namespace Transport

variable {σ : Type}

/-- After one turn of the sending loop it goes on with what is left, or it is over. -/
def sendStep (guest : Guest σ) (left : Bytes) : Exchange σ (Bytes ⊕ Unit) := do
  let rest ← sendTurn guest left
  return if rest.isEmpty then .inr () else .inl rest

/-- After one turn of the receiving loop it goes on with what is there, or it is over. -/
def receiveStep (guest : Guest σ) (total : Nat) (received : Bytes) :
    Exchange σ (Bytes ⊕ Bytes) := do
  let chunk ← receiveTurn guest total received
  let there := received ++ chunk
  return if there.length < total then .inl there else .inr there

/-- A turn of the sending loop moves a byte, unless there is none. -/
theorem sendTurn_progress (guest : Guest σ) (left : Bytes) :
    (sendTurn guest left).Answers fun rest => rest.length ≤ left.length - 1 := by
  refine .after fun buffer => .after fun _ => .after fun _ => .pure ?_
  have positive := buffer.capacity_pos
  rw [List.length_drop]
  omega

/-- The sending loop takes no more turns than there are bytes, and one if there is none. -/
theorem turns_sendStep (guest : Guest σ) {limit : Nat} {left : Bytes}
    (enough : max 1 left.length ≤ limit) :
    Exchange.turns (sendStep guest) limit left = some <$> sendChunks guest left := by
  induction limit generalizing left with
  | zero => omega
  | succ limit ih =>
      rw [Exchange.turns, sendStep, bind_assoc, sendChunks_eq, map_bind]
      refine (sendTurn_progress guest left).bind_congr fun rest progress => ?_
      rw [pure_bind]
      by_cases all : rest.isEmpty
      · rw [if_pos all, if_pos all, map_pure]
      · have some := List.length_pos_iff.mpr (mt List.isEmpty_iff.mpr all)
        rw [if_neg all, if_neg all]
        exact ih (by omega)

/-- The receiving loop takes no more turns than bytes are missing. -/
theorem turns_receiveStep {guest : Guest σ} (exact : guest.ReadsExactly) {total : Nat}
    (small : total < UInt32.size) {limit : Nat} {received : Bytes}
    (unfinished : received.length < total) (enough : total - received.length ≤ limit) :
    Exchange.turns (receiveStep guest total) limit received =
      some <$> receiveChunks guest total received := by
  induction limit generalizing received with
  | zero => omega
  | succ limit ih =>
      rw [Exchange.turns, receiveStep, bind_assoc, receiveChunks_eq exact small,
        if_pos unfinished, map_bind]
      refine (receiveTurn_progress exact small unfinished).bind_congr ?_
      rintro chunk ⟨something, within⟩
      have length : (received ++ chunk).length = received.length + chunk.length :=
        List.length_append
      rw [pure_bind]
      by_cases more : (received ++ chunk).length < total
      · rw [if_pos more]
        exact ih more (by omega)
      · rw [if_neg more, receiveChunks_eq exact small, if_neg more, map_pure]

end Transport

/-! ## The operations of a request -/

/-- The length that a plugin reports in an operation; zero in all others. -/
def Event.reported : Event → Nat
  | .call callee _ (.ok (some length)) =>
    if callee = .getFormattedText ∨ callee = .getErrorText then length.toInt.toNat else 0
  | _ => 0

/-- The length of all reports that a plugin announces. -/
def reported (events : List Event) : Nat :=
  (events.map Event.reported).sum

theorem reported_append (before after : List Event) :
    reported (before ++ after) = reported before + reported after := by
  rw [reported, List.map_append, List.sum_append]
  rfl

/-- The most operations that a transfer takes: four for every chunk, after the announcement. -/
def transferEffort (payload : Bytes) : Nat :=
  1 + 4 * max 1 payload.length

/-- The most operations that a request takes apart from the retrieval of a report: four transfers
with the call after each, the reset before them, and the question for the report. -/
def Request.effort (request : Request) : Nat :=
  6 + transferEffort (Utf8.encode (GlobalConfig.schema.print request.patch.globalConfig)) +
    transferEffort (Utf8.encode (PluginConfig.schema.print request.patch.pluginConfig)) +
    transferEffort (Utf8.encode request.path) + transferEffort (Utf8.encode request.text)

theorem FailedReport.length_le {failure : Failure} {events : List Event}
    (failed : FailedReport failure events) : events.length ≤ 2 := by
  cases failed <;> simp [Report.events]

theorem FailedChunk.length_le {left : Bytes} {failure : Failure} {events : List Event}
    (failed : FailedChunk left failure events) : events.length ≤ 4 := by
  cases failed with
  | window failed => exact Nat.le_trans failed.length_le (by decide)
  | write fills => simp [Report.events]
  | append fills => simp [Report.events]

theorem FailedFetch.length_le {total received : Nat} {failure : Failure} {events : List Event}
    (failed : FailedFetch total received failure events) : events.length ≤ 6 := by
  cases failed with
  | sizing failed => exact Nat.le_trans failed.length_le (by decide)
  | stage continues => simp [Report.events]
  | placing continues failed =>
      have short := failed.length_le
      simp only [Fetch.staging, Report.events, List.length_append, List.length_cons,
        List.length_nil]
      omega
  | read continues placed => simp [Fetch.staging, Report.events]

/-- The chunks of a payload take four operations each. -/
theorem SendsChunks.length_le {left : Bytes} {events : List Event} {outcome : Except Failure Unit}
    (chunks : SendsChunks left events outcome) : events.length ≤ 4 * max 1 left.length := by
  induction chunks with
  | failed failed =>
      have short := failed.length_le
      omega
  | @last left chunk answer fills all =>
      have four : (chunk.events answer).length = 4 := rfl
      rw [four]
      omega
  | @more left chunk answer events outcome fills unsent goesOn ih =>
      have something : left ≠ [] := by
        rintro rfl
        exact unsent List.drop_nil
      have progress := List.length_pos_iff.mpr (fills.bytes_ne_nil something)
      have rest := List.length_pos_iff.mpr unsent
      have four : (chunk.events answer).length = 4 := rfl
      rw [List.length_drop] at ih rest
      rw [List.length_append, four]
      omega

theorem SendsPayload.length_le {payload : Bytes} {events : List Event}
    {outcome : Except Failure Unit} (sends : SendsPayload payload events outcome) :
    events.length ≤ transferEffort payload := by
  cases sends with
  | refused counted => exact Nat.le_add_right 1 _
  | cleared counted chunks =>
      have short := chunks.length_le
      rw [transferEffort, List.length_cons]
      omega

/-- The chunks of a retrieval take six operations each. -/
theorem Receives.length_le {total : Nat} {received : Bytes} {events : List Event}
    {outcome : Except Failure Bytes} (receives : Receives total received events outcome) :
    events.length ≤ 6 * (total - received.length) := by
  induction receives with
  | all all => exact Nat.zero_le _
  | failed unfinished failed =>
      have short := failed.length_le
      omega
  | @more received bytes fetch answer events outcome unfinished continues placed enough goesOn ih =>
      have progress := continues.count_pos unfinished
      have six : (fetch.events answer bytes).length = 6 := rfl
      rw [List.length_append] at ih ⊢
      rw [six]
      omega

section Spends

variable {σ α β : Type} {guest : Guest σ}

/-- The conversation takes at most `effort` operations, and six for every byte of a report. -/
def Spends (effort : Nat) (x : Exchange (Recorded σ) α) : Prop :=
  Performs x (fun _ events => events.length ≤ effort + 6 * reported events)
    (fun _ events => events.length ≤ effort + 6 * reported events)

namespace Spends

variable {effort other : Nat} {x : Exchange (Recorded σ) α} {f : α → Exchange (Recorded σ) β}

theorem of_length_le (performs : Performs x (fun _ events => events.length ≤ effort)
    (fun _ events => events.length ≤ effort)) : Spends effort x :=
  performs.mono (fun _ _ short => Nat.le_trans short (Nat.le_add_right _ _))
    fun _ _ short => Nat.le_trans short (Nat.le_add_right _ _)

theorem ofExcept (outcome : Except Failure α) :
    Spends 0 (Exchange.ofExcept outcome : Exchange (Recorded σ) α) := by
  cases outcome with
  | ok value => exact Performs.pure (Nat.zero_le _)
  | error failure => exact Performs.fail (Nat.zero_le _)

theorem mono (spends : Spends effort x) (le : effort ≤ other) : Spends other x :=
  Performs.mono spends (fun _ _ short => by omega) fun _ _ short => by omega

/-- The operations of two conversations add up. -/
theorem bind (first : Spends effort x) (second : ∀ value, Spends other (f value)) :
    Spends (effort + other) (x >>= f) := by
  refine Performs.andThen first ?_ fun _ _ short => by omega
  intro value before short
  refine Performs.mono (second value) ?_ ?_ <;>
  · intro _ after short'
    rw [List.length_append, reported_append]
    omega

theorem mapFailure {g : Failure → Failure} (spends : Spends effort x) :
    Spends effort (x.mapFailure g) :=
  Performs.mapFailure spends

theorem callUnit (callee : Export) (args : List Int32) :
    Spends 1 (guest.recorded.callUnit callee args) :=
  of_length_le (Performs.callUnit (fun _ => Nat.le_refl 1) fun _ => Nat.le_refl 1)

theorem callInt (callee : Export) (args : List Int32) :
    Spends 1 (guest.recorded.callInt callee args) :=
  of_length_le (Performs.callInt (fun _ => Nat.le_refl 1) (Nat.le_refl 1) fun _ => Nat.le_refl 1)

theorem send (payload : Bytes) :
    Spends (transferEffort payload) (Transport.send guest.recorded payload) := by
  by_cases short : payload.length ≤ Transport.maxPayload
  · apply of_length_le
    apply (send_performs short).mono
    · exact fun _ _ sends => sends.length_le
    · exact fun _ _ sends => sends.length_le
  · rw [Transport.send, if_pos (Nat.not_le.mp short)]
    exact (ofExcept (.error _)).mono (Nat.zero_le _)

theorem commit (scope : Scope) (text : String) :
    Spends (transferEffort (Utf8.encode text) + 1)
      (Config.commit guest.recorded scope text) :=
  (send _).bind fun _ => callUnit _ _

/-- A report of a length that is known takes six operations for every byte. -/
theorem receiveText (exact : guest.ReadsExactly) {length : UInt32}
    (short : length.toNat ≤ Transport.maxPayload) :
    Spends (6 * length.toNat) (Transport.receiveText guest.recorded length) := by
  rw [Transport.receiveText_eq]
  refine (of_length_le ?_).bind fun _ => ofExcept _
  exact (receive_performs exact short).mono (fun _ _ receives => receives.length_le)
    fun _ _ receives => receives.length_le

/-- The question for a report pays for its retrieval by the length that is answered. -/
theorem report (exact : guest.ReadsExactly) {callee : Export}
    (reports : callee = .getFormattedText ∨ callee = .getErrorText)
    (outcome : String → Except Failure α) :
    Spends 1 (do
      let length ← Verdict.stagedLength guest.recorded callee
      let text ← Transport.receiveText guest.recorded length
      Exchange.ofExcept (outcome text)) := by
  have called : Performs (guest.recorded.callInt callee [])
      (fun length events => events = [.call callee [] (.ok (some length))])
      (fun _ events => events.length ≤ 1 + 6 * reported events) :=
    .callInt (fun _ => rfl) (Nat.le_add_right 1 _) fun _ => Nat.le_add_right 1 _
  rw [Verdict.stagedLength, bind_assoc]
  refine Performs.andThen called ?_ fun _ _ short => short
  rintro length before rfl
  have announced :
      reported [.call callee [] (.ok (some length))] = length.toInt.toNat := by
    simp only [reported, List.map_singleton, List.sum_singleton, Event.reported, if_pos reports]
  by_cases nonneg : 0 ≤ length
  · have counted : length.toUInt32.toNat = length.toInt.toNat :=
      toUInt32_of_nonneg (Int32.le_iff_toInt_le.mp nonneg)
    have fetch := (receiveText exact
      (counted ▸ toNat_toInt_le_maxPayload length)).bind fun text =>
        ofExcept (σ := σ) (outcome text)
    rw [if_pos nonneg, pure_bind]
    refine Performs.mono fetch ?_ ?_ <;>
    · intro _ after short
      rw [List.length_append, reported_append, announced, List.length_singleton]
      omega
  · rw [if_neg nonneg]
    exact Performs.fail (Nat.le_add_right 1 _)

/-- However a text is answered, one report at most is asked for. -/
theorem judge (exact : guest.ReadsExactly) (code : Int32) (submitted : String) :
    Spends 1 (do
      let verdict ← Verdict.resolve guest.recorded code
      Invocation.collect guest.recorded submitted verdict) := by
  rw [Verdict.resolve]
  by_cases unchanged : code = Verdict.unchangedCode
  · rw [if_pos unchanged]
    exact (ofExcept (.ok _)).mono (Nat.zero_le 1)
  · rw [if_neg unchanged]
    by_cases formatted : code = Verdict.formattedCode
    · rw [if_pos formatted]
      simp only [bind_assoc, pure_bind]
      exact report exact (.inl rfl) fun text => .ok (Output.mk text .formatted)
    · rw [if_neg formatted]
      by_cases errored : code = Verdict.erroredCode
      · rw [if_pos errored]
        simp only [bind_assoc, pure_bind]
        exact report exact (.inr rfl) fun text => .error (.rejected text)
      · rw [if_neg errored]
        exact (ofExcept (.error _)).mono (Nat.zero_le 1)

theorem request (exact : guest.ReadsExactly) (request : Request) :
    Spends request.effort (formatWith guest.recorded request) := by
  rw [formatWith_eq, Invocation.conversation]
  cases fine : request.patch.globalConfig.problem? with
  | none =>
      have configured : Spends
          (transferEffort (Utf8.encode (GlobalConfig.schema.print request.patch.globalConfig)) + 1 +
            (transferEffort (Utf8.encode (PluginConfig.schema.print request.patch.pluginConfig)) +
              1))
          (Config.push guest.recorded request.patch) := by
        rw [Config.push, fine]
        exact (commit _ _).bind fun _ => commit _ _
      have consulted := (@callInt _ guest .format []).mapFailure (g := recoverTrap) |>.bind
        fun code => judge exact code request.text
      have submitted := (@send _ guest (Utf8.encode request.path)).bind fun _ =>
        (@callUnit _ guest .setFilePath []).bind fun _ =>
          (@send _ guest (Utf8.encode request.text)).bind fun _ => consulted
      have all := (@callUnit _ guest .resetConfig []).bind fun _ =>
        configured.bind fun _ => submitted
      simp only [Invocation.submit, bind_assoc]
      refine Spends.mono all ?_
      rw [Request.effort]
      omega
  | some problem =>
      have refused : Config.push guest.recorded request.patch =
          Exchange.fail (.serialization Scope.global.name problem) := by
        rw [Config.push, fine]
      rw [refused]
      refine ((callUnit .resetConfig []).bind fun _ => ofExcept (.error _)).mono ?_
      rw [Request.effort]
      omega

end Spends

end Spends

/-! ## Requests end -/

/-- Whatever the plugin answers, the loops of a request end. -/
structure Halting {σ : Type} (guest : Guest σ) : Prop where
  /-- A chunk that is sent moves a byte, or it is the only one of an empty payload. -/
  moves : ∀ left, (Transport.sendTurn guest left).Answers fun rest =>
    rest.length < left.length ∨ left = [] ∧ rest = []
  /-- With one turn for every byte, but at least one, the sending loop is over. -/
  sends : ∀ payload limit, max 1 payload.length ≤ limit →
    Exchange.turns (Transport.sendStep guest) limit payload =
      some <$> Transport.sendChunks guest payload
  /-- A chunk that is fetched has a byte. -/
  fetches : ∀ (length : UInt32) (received : Bytes), received.length < length.toNat →
    (Transport.receiveTurn guest length.toNat received).Answers fun chunk => 0 < chunk.length
  /-- With one turn for every byte the receiving loop is over. -/
  receives : ∀ length : UInt32, 0 < length.toNat → ∀ limit, length.toNat ≤ limit →
    Exchange.turns (Transport.receiveStep guest length.toNat) limit [] =
      some <$> Transport.receive guest length
  /-- Without a byte to receive there is nothing to do. -/
  idle : ∀ length : UInt32, length.toNat = 0 → Transport.receive guest length = pure []
  /-- A request ends after so many operations. -/
  ends : ∀ (request : Request) (s : σ), (guest.eventsOf request s).length ≤
    request.effort + 6 * reported (guest.eventsOf request s)

/-- Requests end for every plugin whose memory yields as many bytes as are asked for. -/
theorem requests_halt {σ : Type} {guest : Guest σ} (exact : guest.ReadsExactly) :
    Halting guest where
  moves left s rest s' ran := by
    have progress := Transport.sendTurn_progress guest left s rest s' ran
    cases left with
    | nil => exact .inr ⟨rfl, List.length_eq_zero_iff.mp (Nat.le_zero.mp progress)⟩
    | cons byte left => exact .inl (Nat.lt_succ_of_le progress)
  sends _ _ enough := Transport.turns_sendStep guest enough
  fetches length _ unfinished s chunk s' ran :=
    (Transport.receiveTurn_progress exact length.toNat_lt unfinished s chunk s' ran).1
  receives length something _ enough :=
    Transport.turns_receiveStep exact length.toNat_lt something enough
  idle length zero := by
    rw [Transport.receive, Transport.receiveChunks_eq exact length.toNat_lt, zero]
    rfl
  ends request s := by
    rcases formatWith_performs (Spends.request exact request) s with
      ⟨_, -, short⟩ | ⟨_, -, short⟩ <;> exact short

theorem requests_halt_scripted :
    ScriptedPlugin.guest.ReadsExactly ∧ Halting ScriptedPlugin.guest :=
  ⟨ScriptedPlugin.readsExactly, requests_halt ScriptedPlugin.readsExactly⟩

end FormatterHost
