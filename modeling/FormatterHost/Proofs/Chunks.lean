import Mathlib.Algebra.Ring.Int.Defs
import FormatterHost.Proofs.Recording
import FormatterHost.Proofs.Transport

/-!
# The chunks of a transfer

Nothing has to be known of a plugin to say what sending does to it.  For every chunk the plugin
reports a window of its memory, and of the bytes that are left as many go there as the window holds.
Whatever is reported at a turn, and wherever it ends, the record of a transfer consists of such
chunks and at most one that failed.  All else is read off from that, by induction on the chunks.
-/

namespace FormatterHost

/-! ## Reports of the staging buffer -/

/-- What a plugin reports of its staging buffer. -/
structure Report where
  capacity : Int32
  offset : Int32

namespace Report

/-- The buffer lies somewhere and holds something. -/
def Usable (report : Report) : Prop :=
  0 ≤ report.offset.toInt ∧ 0 < report.capacity.toInt

/-- The plugin is asked how large its buffer is, and where. -/
def events (report : Report) : List Event :=
  [.call .stagingCapacity [] (.ok (some report.capacity)),
    .call .stagingOffset [] (.ok (some report.offset))]

end Report

/-- The plugin is asked for its buffer in vain: what has happened by then, and the failure. -/
inductive FailedReport : Failure → List Event → Prop where
  | capacity {failure : Failure} :
      FailedReport failure [.call .stagingCapacity [] (.error failure)]
  | noCapacity :
      FailedReport
        (.signatureMismatch Export.stagingCapacity.name Export.stagingCapacity.signature)
        [.call .stagingCapacity [] (.ok none)]
  | offset {capacity : Int32} {failure : Failure} :
      FailedReport failure [.call .stagingCapacity [] (.ok (some capacity)),
        .call .stagingOffset [] (.error failure)]
  | noOffset {capacity : Int32} :
      FailedReport (.signatureMismatch Export.stagingOffset.name Export.stagingOffset.signature)
        [.call .stagingCapacity [] (.ok (some capacity)), .call .stagingOffset [] (.ok none)]
  | unusable {report : Report} (unusable : ¬ report.Usable) :
      FailedReport (.invalidBuffer report.offset report.capacity) report.events

/-! ## Chunks -/

/-- A chunk, with what the plugin reported of its staging buffer right before. -/
structure Chunk where
  window : Report
  bytes : Bytes
  /-- How many bytes the plugin is told to append. -/
  count : Int32

namespace Chunk

/-- The chunk has as many of the bytes that are left as the reported window holds. -/
structure Fills (chunk : Chunk) (left : Bytes) : Prop where
  usable : chunk.window.Usable
  bytes_eq : chunk.bytes = left.take (min left.length chunk.window.capacity.toInt.toNat)
  count_eq : chunk.count.toInt = chunk.bytes.length

/-- The chunk is written to the place that was reported. -/
def write (chunk : Chunk) (outcome : Except Failure Unit) : Event :=
  .write chunk.window.offset.toUInt32 chunk.bytes outcome

/-- The plugin is told to append the chunk. -/
def append (chunk : Chunk) (outcome : Except Failure (Option Int32)) : Event :=
  .call .appendStaged [chunk.count] outcome

/-- What sending the chunk does, when the plugin answers `answer` in the end. -/
def events (chunk : Chunk) (answer : Option Int32) : List Event :=
  chunk.window.events ++ [chunk.write (.ok ()), chunk.append (.ok answer)]

namespace Fills

variable {chunk : Chunk} {left : Bytes}

theorem isPrefix (fills : chunk.Fills left) : chunk.bytes <+: left := by
  rw [fills.bytes_eq]
  exact List.take_prefix _ _

/-- The chunk and what is left after it are what was left before. -/
theorem append_drop (fills : chunk.Fills left) :
    chunk.bytes ++ left.drop chunk.bytes.length = left :=
  List.prefix_iff_eq_append.mp fills.isPrefix

theorem length_le (fills : chunk.Fills left) :
    (chunk.bytes.length : Int) ≤ chunk.window.capacity.toInt := by
  have positive := fills.usable.2
  rw [fills.bytes_eq, List.length_take]
  omega

/-- A chunk is empty only if nothing is left. -/
theorem bytes_ne_nil (fills : chunk.Fills left) (something : left ≠ []) : chunk.bytes ≠ [] := by
  have positive := fills.usable.2
  rw [← List.length_pos_iff] at something ⊢
  rw [fills.bytes_eq, List.length_take]
  omega

end Fills

end Chunk

/-- A chunk of the bytes that are left fails: what has happened by then, and the failure. -/
inductive FailedChunk (left : Bytes) : Failure → List Event → Prop where
  | window {failure : Failure} {events : List Event} (failed : FailedReport failure events) :
      FailedChunk left failure events
  | write {chunk : Chunk} {failure : Failure} (fills : chunk.Fills left) :
      FailedChunk left failure (chunk.window.events ++ [chunk.write (.error failure)])
  | append {chunk : Chunk} {failure : Failure} (fills : chunk.Fills left) :
      FailedChunk left failure
        (chunk.window.events ++ [chunk.write (.ok ()), chunk.append (.error failure)])

/-- The bytes that are left are sent chunk by chunk: what happens, and what it comes to. -/
inductive SendsChunks : Bytes → List Event → Except Failure Unit → Prop where
  | failed {left : Bytes} {events : List Event} {failure : Failure}
      (failed : FailedChunk left failure events) : SendsChunks left events (.error failure)
  | last {left : Bytes} {chunk : Chunk} {answer : Option Int32} (fills : chunk.Fills left)
      (all : left.drop chunk.bytes.length = []) :
      SendsChunks left (chunk.events answer) (.ok ())
  | more {left : Bytes} {chunk : Chunk} {answer : Option Int32} {events : List Event}
      {outcome : Except Failure Unit} (fills : chunk.Fills left)
      (unsent : left.drop chunk.bytes.length ≠ [])
      (goesOn : SendsChunks (left.drop chunk.bytes.length) events outcome) :
      SendsChunks left (chunk.events answer ++ events) outcome

/-- The plugin is told how many bytes come, and then they are sent. -/
inductive SendsPayload (payload : Bytes) : List Event → Except Failure Unit → Prop where
  | refused {total : Int32} {failure : Failure} (counted : total.toInt = payload.length) :
      SendsPayload payload [.call .clearShared [total] (.error failure)] (.error failure)
  | cleared {total : Int32} {answer : Option Int32} {events : List Event}
      {outcome : Except Failure Unit} (counted : total.toInt = payload.length)
      (chunks : SendsChunks payload events outcome) :
      SendsPayload payload (.call .clearShared [total] (.ok answer) :: events) outcome

/-! ## Every transfer is sent in chunks -/

section Performs

variable {σ : Type} {guest : Guest σ}

/-- A plugin that is asked for its buffer reports a usable window, or the question has failed. -/
theorem query_reports :
    Performs (StagingBuffer.query guest.recorded)
      (fun buffer events => ∃ report : Report, report.Usable ∧
        buffer.offset = report.offset.toUInt32 ∧
        buffer.capacity.toNat = report.capacity.toInt.toNat ∧ events = report.events)
      FailedReport := by
  have capacity : Performs (guest.recorded.callInt .stagingCapacity [])
      (fun capacity events => events = [.call .stagingCapacity [] (.ok (some capacity))])
      FailedReport :=
    .callInt (fun _ => rfl) .noCapacity fun _ => .capacity
  refine capacity.andThen ?_ fun _ _ failed => failed
  rintro capacity before rfl
  have offset : Performs (guest.recorded.callInt .stagingOffset [])
      (fun offset events => events = [.call .stagingOffset [] (.ok (some offset))])
      (fun failure events =>
        FailedReport failure ([.call .stagingCapacity [] (.ok (some capacity))] ++ events)) :=
    .callInt (fun _ => rfl) .noOffset fun _ => .offset
  refine offset.andThen ?_ fun _ _ failed => failed
  rintro offset before rfl
  by_cases usable : 0 ≤ offset.toInt ∧ 0 < capacity.toInt
  · rw [StagingBuffer.ofReported, dif_pos usable]
    exact .pure ⟨⟨capacity, offset⟩, usable, rfl,
      toUInt32_of_nonneg (Int.le_of_lt usable.2), rfl⟩
  · rw [StagingBuffer.ofReported, dif_neg usable]
    exact .fail (@FailedReport.unusable ⟨capacity, offset⟩ usable)

/-- One turn of the sending loop sends one chunk. -/
theorem sendTurn_performs {left : Bytes} (short : left.length ≤ Transport.maxPayload) :
    Performs (Transport.sendTurn guest.recorded left)
      (fun rest events => ∃ (chunk : Chunk) (answer : Option Int32), chunk.Fills left ∧
        rest = left.drop chunk.bytes.length ∧ events = chunk.events answer)
      (FailedChunk left) := by
  refine query_reports.andThen ?_ fun _ _ failed => .window failed
  rintro buffer before ⟨window, usable, place, size, rfl⟩
  have le := Nat.min_le_left left.length buffer.capacity.toNat
  have holds : min left.length buffer.capacity.toNat =
      min left.length window.capacity.toInt.toNat := by
    rw [size]
  -- From here on only these facts matter, not where the number comes from.
  generalize min left.length buffer.capacity.toNat = count at le holds ⊢
  have length : (left.take count).length = count := List.length_take_of_le le
  have counted : (Int32.ofNat count).toInt = (left.take count).length := by
    rw [length, toInt_ofNat_of_le (Nat.le_trans le short)]
  let chunk : Chunk := ⟨window, left.take count, Int32.ofNat count⟩
  have fills : chunk.Fills left := ⟨usable, congrArg left.take holds, counted⟩
  have written : Performs (guest.recorded.write window.offset.toUInt32 (left.take count))
      (fun _ events => events = [chunk.write (.ok ())])
      (fun failure events => FailedChunk left failure (window.events ++ events)) :=
    .write rfl fun _ => .write fills
  have appended : Performs (guest.recorded.callUnit .appendStaged [Int32.ofNat count])
      (fun _ events => ∃ answer, events = [chunk.append (.ok answer)])
      (fun failure events =>
        FailedChunk left failure (window.events ++ (chunk.write (.ok ()) :: events))) :=
    .callUnit (fun answer => ⟨answer, rfl⟩) fun _ => .append fills
  rw [place]
  refine written.andThen ?_ fun _ _ failed => failed
  rintro _ before rfl
  refine appended.andThen ?_ fun _ _ failed => failed
  rintro _ before ⟨answer, rfl⟩
  have rest : left.drop count = left.drop chunk.bytes.length := by rw [length]
  exact .pure ⟨chunk, answer, fills, rest, rfl⟩

/-- The sending loop sends chunk after chunk. -/
theorem sendChunks_performs {left : Bytes} (short : left.length ≤ Transport.maxPayload) :
    Performs (Transport.sendChunks guest.recorded left)
      (fun _ events => SendsChunks left events (.ok ()))
      (fun failure events => SendsChunks left events (.error failure)) := by
  induction size : left.length using Nat.strongRecOn generalizing left with
  | ind n ih =>
      rw [Transport.sendChunks_eq]
      refine (sendTurn_performs short).andThen ?_ fun _ _ failed => .failed failed
      rintro rest before ⟨chunk, answer, fills, rfl, rfl⟩
      by_cases all : left.drop chunk.bytes.length = []
      · rw [if_pos (List.isEmpty_iff.mpr all)]
        refine .pure ?_
        rw [List.append_nil]
        exact .last fills all
      · rw [if_neg (mt List.isEmpty_iff.mp all)]
        have something : left ≠ [] := by
          rintro rfl
          exact all List.drop_nil
        have shorter : (left.drop chunk.bytes.length).length < n := by
          have progress := List.length_pos_iff.mpr (fills.bytes_ne_nil something)
          have some := List.length_pos_iff.mpr something
          rw [List.length_drop]
          omega
        refine (ih _ shorter (by omega) rfl).mono ?_ ?_
        · exact fun _ _ goesOn => .more fills all goesOn
        · exact fun _ _ goesOn => .more fills all goesOn

/-- A payload that the plugin can count is announced and sent. -/
theorem send_performs {payload : Bytes} (short : payload.length ≤ Transport.maxPayload) :
    Performs (Transport.send guest.recorded payload)
      (fun _ events => SendsPayload payload events (.ok ()))
      (fun failure events => SendsPayload payload events (.error failure)) := by
  have counted := toInt_ofNat_of_le short
  have cleared : Performs (guest.recorded.callUnit .clearShared [Int32.ofNat payload.length])
      (fun _ events => ∃ answer,
        events = [.call .clearShared [Int32.ofNat payload.length] (.ok answer)])
      (fun failure events => SendsPayload payload events (.error failure)) :=
    .callUnit (fun answer => ⟨answer, rfl⟩) fun _ => .refused counted
  rw [Transport.send, if_neg (Nat.not_lt.mpr short)]
  refine cleared.andThen ?_ fun _ _ refused => refused
  rintro _ before ⟨answer, rfl⟩
  refine (sendChunks_performs short).mono ?_ ?_
  · exact fun _ _ chunks => .cleared counted chunks
  · exact fun _ _ chunks => .cleared counted chunks

end Performs

/-! ## What is written -/

/-- The byte strings that were written, or were to be. -/
def written (events : List Event) : List Bytes :=
  events.filterMap fun
    | .write _ bytes _ => some bytes
    | _ => none

/-- The numbers that go with an operation. -/
def Event.args : Event → List Int
  | .call _ args _ => args.map Int32.toInt
  | _ => []

/-- How many bytes the plugin was told to append, each time. -/
def appended (events : List Event) : List Int :=
  events.flatMap fun
    | .call .appendStaged args _ => args.map Int32.toInt
    | _ => []

@[simp] theorem written_append (before after : List Event) :
    written (before ++ after) = written before ++ written after :=
  List.filterMap_append

@[simp] theorem appended_append (before after : List Event) :
    appended (before ++ after) = appended before ++ appended after :=
  List.flatMap_append

@[simp] theorem Chunk.written_events (chunk : Chunk) (answer : Option Int32) :
    written (chunk.events answer) = [chunk.bytes] := rfl

@[simp] theorem Chunk.appended_events (chunk : Chunk) (answer : Option Int32) :
    appended (chunk.events answer) = [chunk.count.toInt] := rfl

theorem FailedReport.written_eq_nil {failure : Failure} {events : List Event}
    (failed : FailedReport failure events) : written events = [] := by
  cases failed <;> rfl

/-- A failed chunk is not written, or it is the beginning of what is left. -/
theorem FailedChunk.written_cases {left : Bytes} {failure : Failure} {events : List Event}
    (failed : FailedChunk left failure events) :
    written events = [] ∨ ∃ chunk : Chunk, chunk.Fills left ∧ written events = [chunk.bytes] := by
  cases failed with
  | window failed => exact .inl failed.written_eq_nil
  | write fills => exact .inr ⟨_, fills, rfl⟩
  | append fills => exact .inr ⟨_, fills, rfl⟩

namespace SendsChunks

variable {left : Bytes} {events : List Event} {outcome : Except Failure Unit}

/-- What is written is a beginning of the bytes that are left. -/
theorem begins (chunks : SendsChunks left events outcome) :
    (written events).flatten <+: left := by
  induction chunks with
  | failed failed =>
      rcases failed.written_cases with nothing | ⟨chunk, fills, once⟩
      · rw [nothing]
        exact List.nil_prefix
      · rw [once, List.flatten_singleton]
        exact fills.isPrefix
  | last fills all =>
      rw [Chunk.written_events, List.flatten_singleton]
      exact fills.isPrefix
  | @more left chunk answer events outcome fills unsent goesOn ih =>
      rw [written_append, Chunk.written_events, List.singleton_append, List.flatten_cons]
      have longer := (List.prefix_append_right_inj chunk.bytes).mpr ih
      rw [fills.append_drop] at longer
      exact longer

/-- If all goes well, everything is written, and appended chunk by chunk. -/
theorem complete (chunks : SendsChunks left events outcome) (ok : outcome = .ok ()) :
    (written events).flatten = left ∧
      appended events = (written events).map fun bytes => (bytes.length : Int) := by
  induction chunks with
  | failed failed => cases ok
  | last fills all =>
      have whole := fills.append_drop
      rw [all, List.append_nil] at whole
      rw [Chunk.written_events, Chunk.appended_events, List.flatten_singleton, List.map_singleton,
        fills.count_eq]
      exact ⟨whole, rfl⟩
  | more fills unsent goesOn ih =>
      obtain ⟨rest, counts⟩ := ih ok
      rw [written_append, appended_append, Chunk.written_events, Chunk.appended_events,
        List.singleton_append, List.singleton_append, List.flatten_cons, List.map_cons, rest,
        counts, fills.count_eq]
      exact ⟨fills.append_drop, rfl⟩

/-- As long as something is left, no chunk is empty. -/
theorem written_ne_nil (chunks : SendsChunks left events outcome) (something : left ≠ []) :
    ∀ bytes ∈ written events, bytes ≠ [] := by
  induction chunks with
  | failed failed =>
      rcases failed.written_cases with nothing | ⟨chunk, fills, once⟩
      · rw [nothing]
        exact List.forall_mem_nil _
      · rw [once, List.forall_mem_singleton]
        exact fills.bytes_ne_nil something
  | last fills all =>
      rw [Chunk.written_events, List.forall_mem_singleton]
      exact fills.bytes_ne_nil something
  | more fills unsent goesOn ih =>
      rw [written_append, Chunk.written_events, List.forall_mem_append, List.forall_mem_singleton]
      exact ⟨fills.bytes_ne_nil something, ih unsent⟩

/-- Where nothing is left there is one chunk, and it is empty. -/
theorem written_nil (chunks : SendsChunks [] events (.ok ())) : written events = [[]] := by
  cases chunks with
  | last fills all =>
      rw [Chunk.written_events, List.prefix_nil.mp fills.isPrefix]
  | more fills unsent goesOn => exact absurd List.drop_nil unsent

/-- What holds of every chunk, sent or failed, and of every two parts of a record together, holds of
the record. -/
theorem of_parts {P : List Event → Prop}
    (failed : ∀ {left failure events}, FailedChunk left failure events → P events)
    (sent : ∀ {chunk : Chunk} {left answer}, chunk.Fills left → P (chunk.events answer))
    (both : ∀ {before after}, P before → P after → P (before ++ after))
    (chunks : SendsChunks left events outcome) : P events := by
  induction chunks with
  | failed failure => exact failed failure
  | last fills all => exact sent fills
  | more fills unsent goesOn ih => exact both (sent fills) ih

end SendsChunks

/-! ## Where it is written -/

/-- The bytes go to the window that was reported, from its start on, and nowhere else. -/
structure InWindow (window : Report) (offset : UInt32) (bytes : Bytes) : Prop where
  starts : (offset.toNat : Int) = window.offset.toInt
  fits : (bytes.length : Int) ≤ window.capacity.toInt
  keeps : ∀ {memory memory' : LinearMemory}, memory.write offset bytes = .ok memory' →
    ∀ index : Nat, ((index : Int) < window.offset.toInt ∨
        window.offset.toInt + window.capacity.toInt ≤ index) →
      memory'.byteAt index = memory.byteAt index

/-- Whatever is written goes to the window that was reported right before. -/
def Windowed (events : List Event) : Prop :=
  ∀ before offset bytes outcome after, events = before ++ .write offset bytes outcome :: after →
    ∃ earlier window, before = earlier ++ window.events ∧ InWindow window offset bytes

theorem Chunk.Fills.inWindow {chunk : Chunk} {left : Bytes} (fills : chunk.Fills left) :
    InWindow chunk.window chunk.window.offset.toUInt32 chunk.bytes := by
  have nonneg := fills.usable.1
  have starts := toUInt32_of_nonneg nonneg
  have fits := fills.length_le
  refine ⟨by omega, fits, ?_⟩
  intro memory memory' written index outside
  exact LinearMemory.byteAt_of_write written (by omega)

namespace Windowed

variable {before after : List Event}

/-- Nothing is written. -/
theorem of_written_nil (nothing : written before = []) : Windowed before := by
  rintro front offset bytes outcome back rfl
  rw [written_append, List.append_eq_nil_iff] at nothing
  exact absurd nothing.2 (List.cons_ne_nil _ _)

theorem append (first : Windowed before) (second : Windowed after) :
    Windowed (before ++ after) := by
  intro front offset bytes outcome back split
  rcases List.append_eq_append_iff.mp split with ⟨middle, rfl, rfl⟩ | ⟨middle, rfl, rest⟩
  · obtain ⟨earlier, window, rfl, inside⟩ := second _ _ _ _ _ rfl
    exact ⟨before ++ earlier, window, (List.append_assoc _ _ _).symm, inside⟩
  · cases middle with
    | nil =>
        obtain ⟨earlier, window, empty, -⟩ := second [] _ _ _ _ rest.symm
        exact absurd empty.symm (List.append_ne_nil_of_right_ne_nil _ (List.cons_ne_nil _ _))
    | cons event middle =>
        cases rest
        exact first _ _ _ _ _ rfl

/-- A chunk is written to its window. -/
theorem of_fills {chunk : Chunk} {left : Bytes} (fills : chunk.Fills left)
    (outcome : Except Failure Unit) : Windowed (chunk.window.events ++ [chunk.write outcome]) := by
  intro front offset bytes outcome' back split
  -- Of the three operations only the last one writes.
  match front, split with
  | [], split => cases split
  | [_], split => cases split
  | [_, _], split =>
      cases split
      exact ⟨[], chunk.window, rfl, fills.inWindow⟩
  | _ :: _ :: _ :: front, split =>
      have none : [] = front ++ .write offset bytes outcome' :: back :=
        List.tail_eq_of_cons_eq (List.tail_eq_of_cons_eq (List.tail_eq_of_cons_eq split))
      exact absurd none.symm (List.append_ne_nil_of_right_ne_nil _ (List.cons_ne_nil _ _))

theorem of_failed {left : Bytes} {failure : Failure} {events : List Event}
    (failed : FailedChunk left failure events) : Windowed events := by
  cases failed with
  | window failed => exact of_written_nil failed.written_eq_nil
  | write fills => exact of_fills fills _
  | append fills => exact (of_fills fills _).append (of_written_nil rfl)

theorem of_chunks {left : Bytes} {events : List Event} {outcome : Except Failure Unit}
    (chunks : SendsChunks left events outcome) : Windowed events :=
  chunks.of_parts of_failed (fun fills => (of_fills fills _).append (of_written_nil rfl)) append

end Windowed

/-! ## What the plugin is told -/

/-- No number that the plugin is given is negative. -/
def Unsigned (events : List Event) : Prop :=
  ∀ event ∈ events, ∀ arg ∈ event.args, 0 ≤ arg

namespace Unsigned

variable {left : Bytes} {events : List Event} {outcome : Except Failure Unit}

theorem call {callee : Export} {arg : Int32} {n : Nat} (counted : arg.toInt = n)
    (answer : Except Failure (Option Int32)) : Unsigned [.call callee [arg] answer] := by
  refine List.forall_mem_singleton.mpr (List.forall_mem_singleton.mpr ?_)
  rw [counted]
  exact Int.natCast_nonneg n

/-- An operation without a number. -/
theorem of_args_nil (without : ∀ event ∈ events, event.args = []) : Unsigned events := by
  intro event mem
  rw [without event mem]
  exact List.forall_mem_nil _

theorem append {before after : List Event} (first : Unsigned before) (second : Unsigned after) :
    Unsigned (before ++ after) :=
  List.forall_mem_append.mpr ⟨first, second⟩

theorem of_written (chunk : Chunk) (outcome : Except Failure Unit) :
    Unsigned (chunk.window.events ++ [chunk.write outcome]) :=
  of_args_nil (by simp [Report.events, Chunk.write, Event.args])

theorem of_failedReport {failure : Failure} (failed : FailedReport failure events) :
    Unsigned events := by
  refine .of_args_nil ?_
  cases failed <;> simp [Event.args, Report.events]

theorem of_failed {failure : Failure} (failed : FailedChunk left failure events) :
    Unsigned events := by
  cases failed with
  | window failed => exact .of_failedReport failed
  | write fills => exact of_written _ _
  | append fills => exact (of_written _ _).append (call fills.count_eq _)

theorem of_chunks (chunks : SendsChunks left events outcome) : Unsigned events :=
  chunks.of_parts of_failed (fun fills => (of_written _ _).append (call fills.count_eq _)) append

end Unsigned

/-! ## The chunk law -/

/-- What sending a payload does to a plugin, whatever that answers. -/
structure ChunkLaw (payload : Bytes) (events : List Event) (outcome : Except Failure Unit) :
    Prop where
  chunks : SendsPayload payload events outcome
  windowed : Windowed events
  unsigned : Unsigned events
  /-- At every moment the bytes that have been written are a beginning of the payload. -/
  begins : ∀ sofar, sofar <+: events → (written sofar).flatten <+: payload
  /-- In the end all are written, and appended chunk by chunk. -/
  whole : outcome = .ok () → (written events).flatten = payload ∧
    appended events = (written events).map (fun bytes => (bytes.length : Int)) ∧
    (appended events).sum = payload.length
  /-- An empty payload takes one chunk. -/
  empty : outcome = .ok () → payload = [] → written events = [[]]
  /-- Otherwise there is something in every chunk. -/
  filled : payload ≠ [] → ∀ bytes ∈ written events, bytes ≠ []

/-- What has been written at some moment is the beginning of what is written in the end. -/
theorem flatten_written_mono {sofar events : List Event} (earlier : sofar <+: events) :
    (written sofar).flatten <+: (written events).flatten := by
  obtain ⟨later, rfl⟩ := earlier
  rw [written_append, List.flatten_append]
  exact List.prefix_append _ _

theorem sum_lengths (chunks : List Bytes) :
    (chunks.map fun bytes => (bytes.length : Int)).sum = chunks.flatten.length := by
  induction chunks with
  | nil => rfl
  | cons bytes chunks ih =>
      rw [List.map_cons, List.sum_cons, ih, List.flatten_cons, List.length_append, Int.natCast_add]

theorem SendsPayload.chunkLaw {payload : Bytes} {events : List Event}
    {outcome : Except Failure Unit} (sends : SendsPayload payload events outcome) :
    ChunkLaw payload events outcome := by
  cases sends with
  | refused counted =>
      refine ⟨.refused counted, .of_written_nil rfl, .call counted _, ?_, nofun, nofun, ?_⟩
      · exact fun sofar earlier => (flatten_written_mono earlier).trans List.nil_prefix
      · exact fun _ => List.forall_mem_nil _
  | @cleared total answer events outcome counted chunks =>
      have announced : Windowed [.call .clearShared [total] (.ok answer)] := .of_written_nil rfl
      refine ⟨.cleared counted chunks, announced.append (.of_chunks chunks),
        (Unsigned.call counted _).append (.of_chunks chunks), ?_, ?_, ?_, chunks.written_ne_nil⟩
      · exact fun sofar earlier => (flatten_written_mono earlier).trans chunks.begins
      · intro ok
        obtain ⟨all, counts⟩ := chunks.complete ok
        have sum : (appended events).sum = payload.length := by rw [counts, sum_lengths, all]
        exact ⟨all, counts, sum⟩
      · rintro rfl rfl
        exact chunks.written_nil

/-- What sending a payload does to a plugin, in the order in which it happens. -/
def Guest.eventsOfSending {σ : Type} (guest : Guest σ) (payload : Bytes) (s : σ) : List Event :=
  (Transport.send guest.recorded payload (.start s)).2.events

/-- Whatever a plugin answers, and wherever it fails, a payload that it can count is sent by the
chunk law.  A payload that is too long is refused, and the plugin does not notice. -/
theorem send_obeys_chunkLaw {σ : Type} (guest : Guest σ) (payload : Bytes) (s : σ) :
    (payload.length ≤ Transport.maxPayload →
      ChunkLaw payload (guest.eventsOfSending payload s) (Transport.send guest payload s).1) ∧
    (Transport.maxPayload < payload.length →
      guest.eventsOfSending payload s = [] ∧
      Transport.send guest payload s =
        (.error (.internal
          s!"payload of {payload.length} bytes exceeds the guest's addressable length"), s)) := by
  constructor
  · intro short
    rcases (send_performs short).outcome (guest.recorded_wraps.send payload) s with
      ⟨_, sent, sends⟩ | ⟨failure, failed, sends⟩
    · rw [sent]
      exact sends.chunkLaw
    · rw [failed]
      exact sends.chunkLaw
  · intro long
    rw [Guest.eventsOfSending, Transport.send, Transport.send, if_pos long, if_pos long]
    exact ⟨rfl, rfl⟩

end FormatterHost
