import FormatterHost.Proofs.Chunks

/-!
# The chunks of a retrieval

A plugin that answers every reading with as many bytes as were asked for can still answer anything
else.  Each chunk is sized by one report of the staging buffer and read by another, and between them
the plugin is told which range of the shared bytes to stage.  Whatever is reported, these ranges lie
end to end: the invariant of the receiving loop is that the next one starts where the bytes that are
there end.
-/

namespace FormatterHost

/-! ## Fetches -/

/-- A chunk that is fetched: the report that sizes it, the range that the plugin is to stage, and
the report of the buffer that it is read from. -/
structure Fetch where
  sizing : Report
  start : Int32
  count : Int32
  placing : Report
  /-- How many bytes are read. -/
  length : UInt32

namespace Fetch

/-- The chunk begins where the bytes that are there end, and has as many of the missing ones as the
first report has room for. -/
structure Continues (fetch : Fetch) (total received : Nat) : Prop where
  sized : fetch.sizing.Usable
  start_eq : fetch.start.toInt = received
  count_eq : fetch.count.toInt =
    (min (total - received) fetch.sizing.capacity.toInt.toNat : Nat)
  length_eq : (fetch.length.toNat : Int) = fetch.count.toInt

/-- The plugin is told to stage the range. -/
def stage (fetch : Fetch) (outcome : Except Failure (Option Int32)) : Event :=
  .call .stageShared [fetch.start, fetch.count] outcome

/-- The chunk is read from the place of the second report. -/
def read (fetch : Fetch) (outcome : Except Failure Bytes) : Event :=
  .read fetch.placing.offset.toUInt32 fetch.length outcome

/-- The chunk is sized and staged. -/
def staging (fetch : Fetch) (answer : Option Int32) : List Event :=
  fetch.sizing.events ++ [fetch.stage (.ok answer)]

/-- What fetching the chunk does, when `bytes` are read in the end. -/
def events (fetch : Fetch) (answer : Option Int32) (bytes : Bytes) : List Event :=
  fetch.staging answer ++ (fetch.placing.events ++ [fetch.read (.ok bytes)])

namespace Continues

variable {fetch : Fetch} {total received : Nat}

theorem count_pos (continues : fetch.Continues total received) (unfinished : received < total) :
    0 < fetch.count.toInt := by
  have positive := continues.sized.2
  rw [continues.count_eq]
  omega

theorem within (continues : fetch.Continues total received) (le : received ≤ total) :
    received + fetch.count.toInt ≤ total := by
  rw [continues.count_eq]
  omega

end Continues

end Fetch

/-- Fetching a chunk fails: what has happened by then, and the failure. -/
inductive FailedFetch (total received : Nat) : Failure → List Event → Prop where
  | sizing {failure : Failure} {events : List Event} (failed : FailedReport failure events) :
      FailedFetch total received failure events
  | stage {fetch : Fetch} {failure : Failure} (continues : fetch.Continues total received) :
      FailedFetch total received failure (fetch.sizing.events ++ [fetch.stage (.error failure)])
  | placing {fetch : Fetch} {answer : Option Int32} {failure : Failure} {events : List Event}
      (continues : fetch.Continues total received) (failed : FailedReport failure events) :
      FailedFetch total received failure (fetch.staging answer ++ events)
  | read {fetch : Fetch} {answer : Option Int32} {failure : Failure}
      (continues : fetch.Continues total received) (placed : fetch.placing.Usable) :
      FailedFetch total received failure
        (fetch.staging answer ++ (fetch.placing.events ++ [fetch.read (.error failure)]))

/-- What is missing from `total` bytes is fetched chunk by chunk: what happens, and what it comes
to. -/
inductive Receives (total : Nat) : Bytes → List Event → Except Failure Bytes → Prop where
  | all {received : Bytes} (all : received.length = total) :
      Receives total received [] (.ok received)
  | failed {received : Bytes} {failure : Failure} {events : List Event}
      (unfinished : received.length < total)
      (failed : FailedFetch total received.length failure events) :
      Receives total received events (.error failure)
  | more {received bytes : Bytes} {fetch : Fetch} {answer : Option Int32} {events : List Event}
      {outcome : Except Failure Bytes} (unfinished : received.length < total)
      (continues : fetch.Continues total received.length) (placed : fetch.placing.Usable)
      (enough : (bytes.length : Int) = fetch.count.toInt)
      (goesOn : Receives total (received ++ bytes) events outcome) :
      Receives total received (fetch.events answer bytes ++ events) outcome

/-! ## Every retrieval is made of fetches -/

section Performs

variable {σ : Type} {guest : Guest σ}

/-- One turn of the receiving loop fetches one chunk. -/
theorem receiveTurn_performs (exact : guest.ReadsExactly) {total : Nat} {received : Bytes}
    (unfinished : received.length < total) (short : total ≤ Transport.maxPayload) :
    Performs (Transport.receiveTurn guest.recorded total received)
      (fun bytes events => ∃ (fetch : Fetch) (answer : Option Int32),
        fetch.Continues total received.length ∧ fetch.placing.Usable ∧
        (bytes.length : Int) = fetch.count.toInt ∧ events = fetch.events answer bytes)
      (FailedFetch total received.length) := by
  refine query_reports.andThen ?_ fun _ _ failed => .sizing failed
  rintro buffer before ⟨sizing, sized, -, size, rfl⟩
  have le := Nat.min_le_left (total - received.length) buffer.capacity.toNat
  have holds : min (total - received.length) buffer.capacity.toNat =
      min (total - received.length) sizing.capacity.toInt.toNat := by
    rw [size]
  -- From here on only these facts matter, not where the number comes from.
  generalize min (total - received.length) buffer.capacity.toNat = count at le holds ⊢
  have skipped := toInt_ofNat_of_le (Nat.le_trans (Nat.le_of_lt unfinished) short)
  have counted : (Int32.ofNat count).toInt = count := toInt_ofNat_of_le (by omega)
  have asked : (UInt32.ofNat count).toNat = count := toNat_ofNat_of_le (by omega)
  let fetch (placing : Report) : Fetch :=
    ⟨sizing, Int32.ofNat received.length, Int32.ofNat count, placing, UInt32.ofNat count⟩
  have continues (placing : Report) : (fetch placing).Continues total received.length :=
    ⟨sized, skipped, counted.trans (congrArg Nat.cast holds),
      (congrArg Nat.cast asked).trans counted.symm⟩
  have staged : Performs (guest.recorded.callUnit .stageShared
        [Int32.ofNat received.length, Int32.ofNat count])
      (fun _ events => ∃ answer, events = [(fetch sizing).stage (.ok answer)])
      (fun failure events =>
        FailedFetch total received.length failure (sizing.events ++ events)) :=
    .callUnit (fun answer => ⟨answer, rfl⟩) fun _ => .stage (continues sizing)
  refine staged.andThen ?_ fun _ _ failed => failed
  rintro _ before ⟨answer, rfl⟩
  refine query_reports.andThen ?_ ?_
  · rintro buffer before ⟨placing, placed, place, -, rfl⟩
    rw [place]
    refine .read ?_ fun failure => ?_
    · intro s bytes s' ran
      have enough : (bytes.length : Int) = (fetch placing).count.toInt :=
        (congrArg Nat.cast ((exact _ _ _ _ _ ran).trans asked)).trans counted.symm
      refine ⟨fetch placing, answer, continues placing, placed, enough, ?_⟩
      simp only [Fetch.events, Fetch.staging, List.append_assoc]
      rfl
    · have failed :=
        @FailedFetch.read total received.length _ answer failure (continues placing) placed
      simp only [Fetch.staging, List.append_assoc] at failed
      exact failed
  · intro failure events failed
    have failed := @FailedFetch.placing total received.length _ answer _ _ (continues sizing) failed
    simp only [Fetch.staging, List.append_assoc] at failed
    exact failed

/-- The receiving loop fetches chunk after chunk. -/
theorem receiveChunks_performs (exact : guest.ReadsExactly) {total : Nat}
    (short : total ≤ Transport.maxPayload) {received : Bytes} (le : received.length ≤ total) :
    Performs (Transport.receiveChunks guest.recorded total received)
      (fun bytes events => Receives total received events (.ok bytes))
      (fun failure events => Receives total received events (.error failure)) := by
  induction left : total - received.length using Nat.strongRecOn generalizing received with
  | ind n ih =>
      rw [Transport.receiveChunks_eq exact.recorded (Nat.lt_of_le_of_lt short (by decide))]
      by_cases unfinished : received.length < total
      · rw [if_pos unfinished]
        refine (receiveTurn_performs exact unfinished short).andThen ?_
          fun _ _ failed => .failed unfinished failed
        rintro bytes before ⟨fetch, answer, continues, placed, enough, rfl⟩
        have progress := continues.count_pos unfinished
        have within := continues.within le
        have length : (received ++ bytes).length = received.length + bytes.length :=
          List.length_append
        have next := ih (total - (received ++ bytes).length) (by omega) (by omega) rfl
        refine next.mono ?_ ?_
        · exact fun _ _ goesOn => .more unfinished continues placed enough goesOn
        · exact fun _ _ goesOn => .more unfinished continues placed enough goesOn
      · rw [if_neg unfinished]
        exact .pure (.all (by omega))

/-- As many bytes as a plugin can report are fetched from the first one on. -/
theorem receive_performs (exact : guest.ReadsExactly) {length : UInt32}
    (short : length.toNat ≤ Transport.maxPayload) :
    Performs (Transport.receive guest.recorded length)
      (fun bytes events => Receives length.toNat [] events (.ok bytes))
      (fun failure events => Receives length.toNat [] events (.error failure)) :=
  receiveChunks_performs exact short (Nat.zero_le _)

end Performs

/-! ## Ranges that lie end to end -/

/-- Ranges of positive length, each from its start on, that lie end to end from `start` to `stop`.
-/
inductive Tiles : Int → List (Int × Int) → Int → Prop where
  | nil {start : Int} : Tiles start [] start
  | cons {start count stop : Int} {ranges : List (Int × Int)} (something : 0 < count)
      (rest : Tiles (start + count) ranges stop) : Tiles start ((start, count) :: ranges) stop

namespace Tiles

variable {start stop : Int} {ranges : List (Int × Int)}

theorem le (tiles : Tiles start ranges stop) : start ≤ stop := by
  induction tiles with
  | nil => exact Int.le_refl _
  | cons something rest ih => omega

theorem inside (tiles : Tiles start ranges stop) :
    ∀ range ∈ ranges, start ≤ range.1 ∧ 1 ≤ range.2 ∧ range.1 + range.2 ≤ stop := by
  induction tiles with
  | nil => exact List.forall_mem_nil _
  | cons something rest ih =>
      refine List.forall_mem_cons.mpr ⟨⟨Int.le_refl _, something, rest.le⟩, ?_⟩
      intro range mem
      have later := ih range mem
      exact ⟨by omega, later.2⟩

/-- No range reaches into a later one. -/
theorem apart (tiles : Tiles start ranges stop) :
    ranges.Pairwise fun earlier later => earlier.1 + earlier.2 ≤ later.1 := by
  induction tiles with
  | nil => exact .nil
  | cons something rest ih => exact .cons (fun later mem => (rest.inside later mem).1) ih

/-- Every position lies in one of the ranges. -/
theorem covers (tiles : Tiles start ranges stop) {position : Int} (from_start : start ≤ position)
    (to_stop : position < stop) :
    ∃ range ∈ ranges, range.1 ≤ position ∧ position < range.1 + range.2 := by
  induction tiles with
  | nil => omega
  | @cons start count stop ranges something rest ih =>
      by_cases here : position < start + count
      · exact ⟨_, List.mem_cons_self, from_start, here⟩
      · obtain ⟨range, mem, holds⟩ := ih (Int.not_lt.mp here) to_stop
        exact ⟨range, List.mem_cons_of_mem _ mem, holds⟩

end Tiles

/-! ## What is asked for and what is read -/

/-- The ranges that the plugin was told to stage. -/
def ranges (events : List Event) : List (Int × Int) :=
  events.filterMap fun
    | .call .stageShared [start, count] _ => some (start.toInt, count.toInt)
    | _ => none

/-- The byte strings that were read. -/
def readings (events : List Event) : List Bytes :=
  events.filterMap fun
    | .read _ _ (.ok bytes) => some bytes
    | _ => none

@[simp] theorem ranges_append (before after : List Event) :
    ranges (before ++ after) = ranges before ++ ranges after :=
  List.filterMap_append

@[simp] theorem readings_append (before after : List Event) :
    readings (before ++ after) = readings before ++ readings after :=
  List.filterMap_append

@[simp] theorem Fetch.ranges_events (fetch : Fetch) (answer : Option Int32) (bytes : Bytes) :
    ranges (fetch.events answer bytes) = [(fetch.start.toInt, fetch.count.toInt)] := rfl

@[simp] theorem Fetch.readings_events (fetch : Fetch) (answer : Option Int32) (bytes : Bytes) :
    readings (fetch.events answer bytes) = [bytes] := rfl

theorem FailedReport.ranges_eq_nil {failure : Failure} {events : List Event}
    (failed : FailedReport failure events) : ranges events = [] := by
  cases failed <;> rfl

namespace Fetch.Continues

variable {fetch : Fetch} {total received : Nat}

/-- The numbers of the range are not negative. -/
theorem unsigned_staging (continues : fetch.Continues total received)
    (outcome : Except Failure (Option Int32)) :
    Unsigned (fetch.sizing.events ++ [fetch.stage outcome]) := by
  have start := continues.start_eq
  have count := continues.count_eq
  refine .append (.of_args_nil (by simp [Event.args, Report.events])) ?_
  refine List.forall_mem_singleton.mpr (List.forall_mem_cons.mpr
    ⟨?_, List.forall_mem_singleton.mpr ?_⟩)
  · rw [start]
    exact Int.natCast_nonneg _
  · rw [count]
    exact Int.natCast_nonneg _

theorem unsigned_reading (outcome : Except Failure Bytes) :
    Unsigned (fetch.placing.events ++ [fetch.read outcome]) :=
  .of_args_nil (by simp [Event.args, Report.events, Fetch.read])

end Fetch.Continues

namespace FailedFetch

variable {total received : Nat} {failure : Failure} {events : List Event}

/-- A fetch that fails has asked for nothing yet, or for the range that comes next. -/
theorem ranges_cases (failed : FailedFetch total received failure events) :
    ranges events = [] ∨
      ∃ fetch : Fetch, fetch.Continues total received ∧
        ranges events = [((received : Int), fetch.count.toInt)] := by
  cases failed with
  | sizing failed => exact .inl failed.ranges_eq_nil
  | @stage fetch _ continues =>
      rw [← continues.start_eq]
      exact .inr ⟨fetch, continues, rfl⟩
  | @placing fetch answer _ after continues failed =>
      refine .inr ⟨fetch, continues, ?_⟩
      rw [ranges_append, failed.ranges_eq_nil, List.append_nil, ← continues.start_eq]
      rfl
  | @read fetch answer _ continues placed =>
      rw [← continues.start_eq]
      exact .inr ⟨fetch, continues, rfl⟩

theorem unsigned (failed : FailedFetch total received failure events) : Unsigned events := by
  cases failed with
  | sizing failed => exact .of_failedReport failed
  | stage continues => exact continues.unsigned_staging _
  | placing continues failed =>
      exact (continues.unsigned_staging _).append (.of_failedReport failed)
  | read continues placed =>
      exact (continues.unsigned_staging _).append (Fetch.Continues.unsigned_reading _)

end FailedFetch

namespace Receives

variable {total : Nat} {received : Bytes} {events : List Event} {outcome : Except Failure Bytes}

/-- The ranges lie end to end from the bytes that are there on, and do not go beyond the last. -/
theorem tiles (receives : Receives total received events outcome) :
    ∃ reach : Int, reach ≤ total ∧ Tiles received.length (ranges events) reach := by
  induction receives with
  | @all received all => exact ⟨received.length, by omega, .nil⟩
  | @failed received failure events unfinished failed =>
      rcases failed.ranges_cases with nothing | ⟨fetch, continues, once⟩
      · exact ⟨received.length, by omega, nothing ▸ .nil⟩
      · exact ⟨_, continues.within (Nat.le_of_lt unfinished),
          once ▸ .cons (continues.count_pos unfinished) .nil⟩
  | @more received bytes fetch answer events outcome unfinished continues placed enough goesOn ih =>
      obtain ⟨reach, le, rest⟩ := ih
      rw [List.length_append, Int.natCast_add, enough] at rest
      refine ⟨reach, le, ?_⟩
      rw [ranges_append, Fetch.ranges_events, List.singleton_append, continues.start_eq]
      exact .cons (continues.count_pos unfinished) rest

/-- If all goes well, the ranges reach to the end, and what is read comes after what was there. -/
theorem complete (receives : Receives total received events outcome) {bytes : Bytes}
    (ok : outcome = .ok bytes) :
    Tiles received.length (ranges events) total ∧
      bytes = received ++ (readings events).flatten ∧ bytes.length = total := by
  induction receives with
  | @all received all =>
      cases ok
      rw [all]
      exact ⟨.nil, (List.append_nil _).symm, rfl⟩
  | failed unfinished failed => cases ok
  | @more received chunk fetch answer events outcome unfinished continues placed enough goesOn ih =>
      obtain ⟨rest, whole, length⟩ := ih ok
      rw [List.length_append, Int.natCast_add, enough] at rest
      rw [ranges_append, Fetch.ranges_events, List.singleton_append, continues.start_eq,
        readings_append, Fetch.readings_events, List.singleton_append, List.flatten_cons,
        ← List.append_assoc]
      exact ⟨.cons (continues.count_pos unfinished) rest, whole, length⟩

theorem unsigned (receives : Receives total received events outcome) : Unsigned events := by
  induction receives with
  | all all => exact .of_args_nil (List.forall_mem_nil _)
  | failed unfinished failed => exact failed.unsigned
  | more unfinished continues placed enough goesOn ih =>
      exact ((continues.unsigned_staging _).append (Fetch.Continues.unsigned_reading _)).append ih

/-- Where everything is there, nothing is asked of the plugin. -/
theorem of_length_eq (receives : Receives total received events outcome)
    (all : received.length = total) : events = [] ∧ outcome = .ok received := by
  cases receives with
  | all => exact ⟨rfl, rfl⟩
  | failed unfinished => omega
  | more unfinished => omega

end Receives

/-! ## The law of retrievals -/

/-- What receiving does to a plugin, whatever that answers. -/
structure RetrievalLaw (total : Nat) (events : List Event) (outcome : Except Failure Bytes) :
    Prop where
  fetches : Receives total [] events outcome
  unsigned : Unsigned events
  /-- At every moment the ranges asked for lie end to end from the first byte on. -/
  tiled : ∃ reach : Int, reach ≤ total ∧ Tiles 0 (ranges events) reach
  inside : ∀ range ∈ ranges events, 0 ≤ range.1 ∧ 1 ≤ range.2 ∧ range.1 + range.2 ≤ total
  apart : (ranges events).Pairwise fun earlier later => earlier.1 + earlier.2 ≤ later.1
  /-- In the end they cover everything, and what has been read is the result. -/
  whole : ∀ bytes, outcome = .ok bytes → Tiles 0 (ranges events) total ∧
    (∀ position : Int, 0 ≤ position → position < total →
      ∃ range ∈ ranges events, range.1 ≤ position ∧ position < range.1 + range.2) ∧
    bytes = (readings events).flatten ∧ bytes.length = total
  nothing : total = 0 → events = [] ∧ outcome = .ok []

theorem Receives.retrievalLaw {total : Nat} {events : List Event}
    {outcome : Except Failure Bytes} (receives : Receives total [] events outcome) :
    RetrievalLaw total events outcome := by
  obtain ⟨reach, le, tiles⟩ := receives.tiles
  refine ⟨receives, receives.unsigned, ⟨reach, le, tiles⟩, ?_, tiles.apart, ?_, ?_⟩
  · intro range mem
    obtain ⟨nonneg, positive, within⟩ := tiles.inside range mem
    exact ⟨nonneg, positive, Int.le_trans within le⟩
  · intro bytes ok
    obtain ⟨tiles, whole, length⟩ := receives.complete ok
    exact ⟨tiles, fun _ nonneg lt => tiles.covers nonneg lt, whole, length⟩
  · exact fun zero => receives.of_length_eq zero.symm

/-- What receiving `length` bytes does to a plugin, in the order in which it happens. -/
def Guest.eventsOfReceiving {σ : Type} (guest : Guest σ) (length : UInt32) (s : σ) : List Event :=
  (Transport.receive guest.recorded length (.start s)).2.events

/-- Whatever a plugin answers, and wherever it fails, as many bytes as it can report are received by
the law of retrievals, provided that readings yield what they are asked for. -/
theorem receive_obeys_retrievalLaw {σ : Type} {guest : Guest σ} (exact : guest.ReadsExactly)
    {length : UInt32} (short : length.toNat ≤ Transport.maxPayload) (s : σ) :
    RetrievalLaw length.toNat (guest.eventsOfReceiving length s)
      (Transport.receive guest length s).1 := by
  have mirrors : (Transport.receive guest.recorded length).Mirrors Recorded.guest
      (Transport.receive guest length) :=
    guest.recorded_wraps.receiveChunks _ _
  rcases (receive_performs exact short).outcome mirrors s with
    ⟨bytes, received, receives⟩ | ⟨failure, failed, receives⟩
  · rw [received]
    exact receives.retrievalLaw
  · rw [failed]
    exact receives.retrievalLaw

/-- Of two bytes that are asked for only the first one is there; four others arrive in two
chunks. -/
theorem receive_obeys_retrievalLaw_in_chunks :
    ScriptedPlugin.guest.ReadsExactly ∧
      (2 : UInt32).toNat ≤ Transport.maxPayload ∧
      RetrievalLaw (2 : UInt32).toNat (ScriptedPlugin.guest.eventsOfReceiving 2 .narrow)
        (Transport.receive ScriptedPlugin.guest 2 .narrow).1 ∧
      (4 : UInt32).toNat ≤ Transport.maxPayload ∧
      RetrievalLaw (4 : UInt32).toNat (ScriptedPlugin.guest.eventsOfReceiving 4 .shifting)
        (.ok [0x65, 0xC3, 0xA9, 0x21]) := by
  refine ⟨ScriptedPlugin.readsExactly, by decide,
    receive_obeys_retrievalLaw ScriptedPlugin.readsExactly (by decide) .narrow, by decide, ?_⟩
  have law := receive_obeys_retrievalLaw ScriptedPlugin.readsExactly
    (show (4 : UInt32).toNat ≤ Transport.maxPayload by decide) .shifting
  obtain ⟨s', p', received, -⟩ := exists_received (ScriptedPlugin.sharesBytes [])
    (ScriptedPlugin.view_of_usable .shifting (by decide))
    (show (4 : UInt32).toNat ≤ 5 by decide) (by decide)
  rw [received] at law
  exact law

end FormatterHost
