import Mathlib.Computability.Language
import Mathlib.Order.CompletePartialOrder
import FormatterHost.Proofs.Recording

/-!
# The language of requests

Whatever a plugin answers, what a request asks of it is the beginning of a word of one language: the
reset, four transfers with the call after each that uses what has been transferred, and, if the last
of these calls announces a report, its retrieval.  Transfers and retrievals are sequences of chunks
that carry exactly their payload.

The numbers in the words of the language are integers, so a count that wraps would be no letter.
-/

namespace FormatterHost

/-! ## Letters -/

/-- An operation as a plugin is asked for it. -/
inductive Letter where
  | call (callee : Export) (args : List Int)
  | read (offset length : Nat)
  | write (offset : Nat) (bytes : Bytes)

/-- What a plugin was asked for. -/
def Event.letter : Event → Letter
  | .call callee args _ => .call callee (args.map Int32.toInt)
  | .read offset length _ => .read offset.toNat length.toNat
  | .write offset bytes _ => .write offset.toNat bytes

/-- What a plugin was asked for, one operation after another. -/
def letters (events : List Event) : List Letter :=
  events.map Event.letter

@[simp] theorem letters_append (before after : List Event) :
    letters (before ++ after) = letters before ++ letters after :=
  List.map_append

/-! ## Words -/

namespace Protocol

/-- The call of an export. -/
def call (callee : Export) (args : List Int) : Language Letter :=
  {[.call callee args]}

theorem call_mem (callee : Export) (args : List Int) : [.call callee args] ∈ call callee args :=
  rfl

/-- Bytes are read, from wherever the staging buffer lies. -/
def read (length : Nat) : Language Letter :=
  {word | ∃ offset, word = [.read offset length]}

/-- Bytes are written, to wherever the staging buffer lies. -/
def write (bytes : Bytes) : Language Letter :=
  {word | ∃ offset, word = [.write offset bytes]}

/-- The plugin is asked for its staging buffer. -/
def query : Language Letter :=
  call .stagingCapacity [] * call .stagingOffset []

/-- A chunk is written to the staging buffer and appended from there. -/
def sentChunk (chunk : Bytes) : Language Letter :=
  query * (write chunk * call .appendStaged [chunk.length])

/-- A payload is sent in chunks.  None of them is empty, unless the payload is. -/
inductive SentChunks : Bytes → List Letter → Prop where
  | last {chunk : Bytes} {word : List Letter} (sent : word ∈ sentChunk chunk) :
      SentChunks chunk word
  | more {chunk rest : Bytes} {first later : List Letter} (something : chunk ≠ [])
      (unsent : rest ≠ []) (sent : first ∈ sentChunk chunk) (goesOn : SentChunks rest later) :
      SentChunks (chunk ++ rest) (first ++ later)

/-- The chunks of a payload. -/
def sending (payload : Bytes) : Language Letter :=
  {word | SentChunks payload word}

/-- The shared bytes are replaced by a payload. -/
def transfer (payload : Bytes) : Language Letter :=
  call .clearShared [payload.length] * sending payload

/-- A range of the shared bytes is copied to the staging buffer, wherever that is afterwards, and
read from there. -/
def fetchedChunk (start count : Nat) : Language Letter :=
  query * (call .stageShared [start, count] * (query * read count))

/-- What is missing from `total` bytes is fetched in chunks, none of which is empty. -/
inductive FetchedChunks (total : Nat) : Nat → List Letter → Prop where
  | all : FetchedChunks total total []
  | more {received count : Nat} {first later : List Letter} (something : 0 < count)
      (within : received + count ≤ total) (fetched : first ∈ fetchedChunk received count)
      (goesOn : FetchedChunks total (received + count) later) :
      FetchedChunks total received (first ++ later)

/-- The chunks that are missing from `total` bytes. -/
def fetching (total received : Nat) : Language Letter :=
  {word | FetchedChunks total received word}

/-- Both configurations are sent and committed. -/
def configuration (patch : Patch) : Language Letter :=
  transfer (Utf8.encode (GlobalConfig.schema.print patch.globalConfig)) * call .setGlobalConfig [] *
    (transfer (Utf8.encode (PluginConfig.schema.print patch.pluginConfig)) *
      call .setPluginConfig [])

/-- A path is sent and kept, and a text is sent. -/
def submission (path text : String) : Language Letter :=
  transfer (Utf8.encode path) * (call .setFilePath [] * transfer (Utf8.encode text))

/-- The text is formatted, and the answer is `code`.  If a report goes with the answer, it is
fetched; it has the given length. -/
def consultation (code : Int32) (length : Nat) : Language Letter :=
  call .format [] *
    if code = 1 then call .getFormattedText [] * fetching length 0
    else if code = 2 then call .getErrorText [] * fetching length 0
    else 1

/-- Nothing is asked for after an answer without a report. -/
theorem consultation_mem {code : Int32} (formatted : code ≠ 1) (errored : code ≠ 2)
    (length : Nat) : [.call .format []] ∈ consultation code length := by
  rw [consultation, if_neg formatted, if_neg errored, mul_one]
  exact call_mem _ _

/-- A request whose text is answered by `code`, with a report of the given length if one is due. -/
def request (request : Request) (code : Int32) (length : Nat) : Language Letter :=
  call .resetConfig [] *
    if request.patch.globalConfig.lineWidth ≠ 0 ∧ request.patch.globalConfig.indentWidth ≠ 0 then
      configuration request.patch * (submission request.path request.text *
        consultation code length)
    else 1

theorem sentChunk_le (chunk : Bytes) : sentChunk chunk ≤ sending chunk :=
  fun _ sent => .last sent

theorem sentChunk_mul_le {chunk rest : Bytes} (something : chunk ≠ []) (unsent : rest ≠ []) :
    sentChunk chunk * sending rest ≤ sending (chunk ++ rest) := by
  rintro _ ⟨first, sent, later, goesOn, rfl⟩
  exact .more something unsent sent goesOn

theorem fetchedChunk_mul_le {total received count : Nat} (something : 0 < count)
    (within : received + count ≤ total) :
    fetchedChunk received count * fetching total (received + count) ≤ fetching total received := by
  rintro _ ⟨first, fetched, later, goesOn, rfl⟩
  exact .more something within fetched goesOn

theorem query_mem : [.call .stagingCapacity [], .call .stagingOffset []] ∈ query :=
  Language.append_mem_mul (call_mem _ _) (call_mem _ _)

/-- Everything that is missing can be fetched in one chunk. -/
theorem fetching_nonempty (total : Nat) : ∃ word, word ∈ fetching total 0 := by
  rcases Nat.eq_zero_or_pos total with rfl | something
  · exact ⟨[], .all⟩
  · have goesOn : FetchedChunks total (0 + total) [] := by
      rw [Nat.zero_add]
      exact .all
    have copied : [.read 0 total] ∈ read total := ⟨0, rfl⟩
    have fetched : _ ∈ fetchedChunk 0 total :=
      Language.append_mem_mul query_mem
        (Language.append_mem_mul (call_mem _ _) (Language.append_mem_mul query_mem copied))
    exact ⟨_, .more something (Nat.le_of_eq (Nat.zero_add total)) fetched goesOn⟩

/-- Every payload can be sent in one chunk. -/
theorem transfer_nonempty (payload : Bytes) : ∃ word, word ∈ transfer payload := by
  have copied : [.write 0 payload] ∈ write payload := ⟨0, rfl⟩
  have sent : _ ∈ sentChunk payload :=
    Language.append_mem_mul query_mem (Language.append_mem_mul copied (call_mem _ _))
  exact ⟨_, Language.append_mem_mul (call_mem _ _) (.last sent)⟩

end Protocol

/-! ## Speaking a language -/

/-- The letters are the beginning of a word. -/
def Begins {α : Type} (language : Language α) (letters : List α) : Prop :=
  ∃ word ∈ language, letters <+: word

namespace Begins

variable {α : Type} {first second : Language α} {before after : List α}

theorem of_mem (mem : before ∈ first) : Begins first before :=
  ⟨before, mem, List.prefix_refl before⟩

theorem nil (begun : Begins first before) : Begins first [] := by
  obtain ⟨word, mem, -⟩ := begun
  exact ⟨word, mem, List.nil_prefix⟩

theorem mono (begun : Begins first before) (le : first ≤ second) : Begins second before := by
  obtain ⟨word, mem, isPrefix⟩ := begun
  exact ⟨word, le mem, isPrefix⟩

/-- What begins a word begins every word that goes on from it. -/
theorem mul (begun : Begins first before) (possible : Begins second []) :
    Begins (first * second) before := by
  obtain ⟨word, mem, isPrefix⟩ := begun
  obtain ⟨rest, restMem, -⟩ := possible
  exact ⟨word ++ rest, Language.append_mem_mul mem restMem,
    isPrefix.trans (List.prefix_append word rest)⟩

theorem append (mem : before ∈ first) (begun : Begins second after) :
    Begins (first * second) (before ++ after) := by
  obtain ⟨word, wordMem, isPrefix⟩ := begun
  exact ⟨before ++ word, Language.append_mem_mul mem wordMem,
    (List.prefix_append_right_inj before).mpr isPrefix⟩

end Begins

section Speaks

variable {σ α β : Type}

/-- The conversation `x` asks for a word of the language, or for the beginning of one if it
fails. -/
def Speaks (x : Exchange (Recorded σ) α) (language : Language Letter) : Prop :=
  Performs x (fun _ events => letters events ∈ language)
    (fun _ events => Begins language (letters events))

namespace Speaks

variable {x : Exchange (Recorded σ) α} {f : α → Exchange (Recorded σ) β}
variable {first second language : Language Letter} {guest : Guest σ}

/-- Nothing is said. -/
theorem pure (value : α) : Speaks (Pure.pure value : Exchange (Recorded σ) α) 1 :=
  Performs.pure Language.nil_mem_one

theorem fail (failure : Failure) : Speaks (Exchange.fail failure : Exchange (Recorded σ) α) 1 :=
  Performs.fail (.of_mem Language.nil_mem_one)

theorem ofExcept (outcome : Except Failure α) :
    Speaks (Exchange.ofExcept outcome : Exchange (Recorded σ) α) 1 := by
  cases outcome with
  | ok value => exact pure value
  | error failure => exact fail failure

theorem mono (speaks : Speaks x first) (le : first ≤ second) : Speaks x second :=
  Performs.mono speaks (fun _ _ mem => le mem) fun _ _ begun => begun.mono le

/-- Where a language is spoken, it has words. -/
theorem possible (speaks : Speaks x language) (s : σ) : Begins language [] := by
  refine (speaks (.start s)).state (P := fun _ => Begins language []) ?_ ?_
  · rintro _ _ ⟨events, -, mem⟩
    exact (Begins.of_mem mem).nil
  · rintro _ _ ⟨events, -, begun⟩
    exact begun.nil

/-- One conversation after another, where the answer to the first decides how it goes on.  All that
is known of the answer is `good`. -/
theorem choose_of {good : α → Prop} (ends : Performs x
      (fun value events => good value ∧ letters events ∈ first)
      (fun _ events => Begins first (letters events)))
    (answerable : ∃ value, good value)
    (goesOn : ∀ value, good value → ∃ second, Speaks (f value) second ∧ first * second ≤ language) :
    Speaks (x >>= f) language := by
  intro r
  refine ends.andThen ?_ ?_ r
  · rintro value before ⟨holds, mem⟩
    obtain ⟨second, speaks, le⟩ := goesOn value holds
    refine Performs.mono speaks ?_ ?_
    · intro answer after mem'
      rw [letters_append]
      exact le (Language.append_mem_mul mem mem')
    · intro failure after begun
      rw [letters_append]
      exact (Begins.append mem begun).mono le
  · intro failure events begun
    obtain ⟨value, holds⟩ := answerable
    obtain ⟨second, speaks, le⟩ := goesOn value holds
    exact (begun.mul (speaks.possible r.guest)).mono le

theorem choose [Inhabited α] (speaks : Speaks x first)
    (goesOn : ∀ value, ∃ second, Speaks (f value) second ∧ first * second ≤ language) :
    Speaks (x >>= f) language :=
  choose_of (Performs.mono speaks (fun _ _ mem => ⟨trivial, mem⟩) fun _ _ begun => begun)
    ⟨default, trivial⟩ fun value _ => goesOn value

/-- One conversation after another. -/
theorem bind [Inhabited α] (speaks : Speaks x first) (goesOn : ∀ value, Speaks (f value) second) :
    Speaks (x >>= f) (first * second) :=
  speaks.choose fun value => ⟨second, goesOn value, le_rfl⟩

theorem callUnit (callee : Export) (args : List Int32) :
    Speaks (guest.recorded.callUnit callee args) (Protocol.call callee (args.map Int32.toInt)) :=
  Performs.callUnit (fun _ => rfl) fun _ => .of_mem rfl

theorem callInt (callee : Export) (args : List Int32) :
    Speaks (guest.recorded.callInt callee args) (Protocol.call callee (args.map Int32.toInt)) :=
  Performs.callInt (fun _ => rfl) (.of_mem rfl) fun _ => .of_mem rfl

theorem write (offset : UInt32) (bytes : Bytes) :
    Speaks (guest.recorded.write offset bytes) (Protocol.write bytes) :=
  Performs.write ⟨offset.toNat, rfl⟩ fun _ => .of_mem ⟨offset.toNat, rfl⟩

/-- Bytes are read, and as many as were asked for are there to go on with. -/
theorem read_bind (exact : guest.ReadsExactly) (offset : UInt32) {length : UInt32} {count : Nat}
    (asked : length.toNat = count) {f : Bytes → Exchange (Recorded σ) β}
    (goesOn : ∀ bytes, bytes.length = count → Speaks (f bytes) second) :
    Speaks (guest.recorded.read offset length >>= f) (Protocol.read count * second) := by
  subst asked
  refine choose_of (Performs.read ?_ ?_) ⟨_, List.length_replicate (a := 0)⟩
    fun bytes enough => ⟨second, goesOn bytes enough, le_rfl⟩
  · intro s bytes s' ran
    exact ⟨exact _ _ s bytes s' ran, offset.toNat, rfl⟩
  · exact fun _ => .of_mem ⟨offset.toNat, rfl⟩

theorem query : Speaks (StagingBuffer.query guest.recorded) Protocol.query := by
  rw [Protocol.query, ← mul_one (Protocol.call .stagingOffset []), StagingBuffer.query]
  exact (callInt .stagingCapacity []).bind fun _ =>
    (callInt .stagingOffset []).bind fun _ => ofExcept _

end Speaks

instance : Inhabited StagingBuffer := ⟨⟨0, 1, by decide⟩⟩

/-! ## Transfers and retrievals -/

variable {guest : Guest σ}

/-- The loop that sends goes on until its chunks make up the payload. -/
theorem sendChunks_speaks {left : Bytes} (short : left.length ≤ Transport.maxPayload) :
    Speaks (Transport.sendChunks guest.recorded left) (Protocol.sending left) := by
  induction left using Transport.sendChunks.induct with
  | case1 left ih =>
      rw [Transport.sendChunks]
      refine Speaks.query.choose fun buffer => ?_
      have positive := buffer.capacity_pos
      have le := Nat.min_le_left left.length buffer.capacity.toNat
      have progress : min left.length buffer.capacity.toNat = 0 → left.length = 0 := by omega
      have next := ih buffer
      -- From here on only these bounds matter, not where the number comes from.
      generalize min left.length buffer.capacity.toNat = count at le progress next ⊢
      have length : (left.take count).length = count := List.length_take_of_le le
      have counted : (Int32.ofNat count).toInt = (left.take count).length := by
        rw [length, toInt_ofNat_of_le (Nat.le_trans le short)]
      have write : Speaks (guest.recorded.write buffer.offset (left.take count)) _ :=
        .write buffer.offset (left.take count)
      have append : Speaks (guest.recorded.callUnit .appendStaged [Int32.ofNat count]) _ :=
        .callUnit .appendStaged [Int32.ofNat count]
      rw [List.map_singleton, counted] at append
      by_cases more : count < left.length
      · have unsent : left.drop count ≠ [] := by
          rw [Ne, List.drop_eq_nil_iff]
          omega
        have something : left.take count ≠ [] := by
          rw [← List.length_pos_iff]
          omega
        have chunks := Protocol.sentChunk_mul_le something unsent
        rw [List.take_append_drop] at chunks
        refine ⟨_ * (_ * Protocol.sending (left.drop count)),
          write.bind fun _ => append.bind fun _ => ?_, ?_⟩
        · rw [if_pos more]
          refine next more ?_
          rw [List.length_drop]
          omega
        · simpa only [Protocol.sentChunk, mul_assoc] using chunks
      · have all : left.take count = left := List.take_of_length_le (Nat.not_lt.mp more)
        refine ⟨_ * (_ * 1), write.bind fun _ => append.bind fun _ => ?_, ?_⟩
        · rw [if_neg more]
          exact .pure ()
        · rw [mul_one, all]
          exact Protocol.sentChunk_le left

/-- A payload that is too long to be counted is not announced. -/
theorem send_speaks (payload : Bytes) :
    Speaks (Transport.send guest.recorded payload) (Protocol.transfer payload) := by
  rw [Transport.send]
  by_cases long : Transport.maxPayload < payload.length
  · obtain ⟨word, mem⟩ := Protocol.transfer_nonempty payload
    rw [if_pos long]
    exact Performs.fail (Begins.of_mem mem).nil
  · have counted := toInt_ofNat_of_le (Nat.not_lt.mp long)
    have clear : Speaks (guest.recorded.callUnit .clearShared [Int32.ofNat payload.length]) _ :=
      .callUnit .clearShared [Int32.ofNat payload.length]
    rw [List.map_singleton, counted] at clear
    rw [if_neg long]
    exact clear.bind fun _ => sendChunks_speaks (Nat.not_lt.mp long)

theorem commit_speaks (scope : Scope) (text : String) :
    Speaks (Config.commit guest.recorded scope text)
      (Protocol.transfer (Utf8.encode text) * Protocol.call scope.commitExport []) :=
  (send_speaks _).bind fun _ => .callUnit _ _

/-- A turn of the receiving loop and what comes after it, for a chunk of the right size. -/
theorem receiveTurn_bind_speaks (exact : guest.ReadsExactly) {total : Nat} {received : Bytes}
    (short : total ≤ Transport.maxPayload) (more : received.length < total) {α : Type}
    {next : Bytes → Exchange (Recorded σ) α}
    (goesOn : ∀ chunk : Bytes, 0 < chunk.length → received.length + chunk.length ≤ total →
      Speaks (next chunk) (Protocol.fetching total (received.length + chunk.length))) :
    Speaks (Transport.receiveTurn guest.recorded total received >>= next)
      (Protocol.fetching total received.length) := by
  rw [Transport.receiveTurn, bind_assoc]
  refine Speaks.query.choose fun sizing => ?_
  have positive := sizing.capacity_pos
  have within :
      received.length + min (total - received.length) sizing.capacity.toNat ≤ total := by
    omega
  have something : 0 < min (total - received.length) sizing.capacity.toNat := by omega
  generalize min (total - received.length) sizing.capacity.toNat = count at within something ⊢
  have stage : Speaks (guest.recorded.callUnit .stageShared
      [Int32.ofNat received.length, Int32.ofNat count]) _ :=
    .callUnit .stageShared [Int32.ofNat received.length, Int32.ofNat count]
  rw [List.map_cons, List.map_singleton, toInt_ofNat_of_le (by omega),
    toInt_ofNat_of_le (by omega)] at stage
  have asked : (UInt32.ofNat count).toNat = count := toNat_ofNat_of_le (by omega)
  simp only [bind_assoc]
  refine ⟨_ * (_ * (Protocol.read count * Protocol.fetching total (received.length + count))),
    stage.bind fun _ => Speaks.query.bind fun buffer => ?_, ?_⟩
  · refine .read_bind exact buffer.offset asked fun chunk length => ?_
    have next := goesOn chunk (length ▸ something) (length ▸ within)
    rw [length] at next
    exact next
  · simpa only [Protocol.fetchedChunk, mul_assoc] using
      Protocol.fetchedChunk_mul_le something within

/-- The loop that receives goes on until it has every byte. -/
theorem receiveChunks_speaks (exact : guest.ReadsExactly) {total : Nat}
    (short : total ≤ Transport.maxPayload) {received : Bytes} (le : received.length ≤ total) :
    Speaks (Transport.receiveChunks guest.recorded total received)
      (Protocol.fetching total received.length) := by
  induction left : total - received.length using Nat.strongRecOn generalizing received with
  | ind n ih =>
      rw [Transport.receiveChunks_eq exact.recorded (Nat.lt_of_le_of_lt short (by decide))]
      by_cases more : received.length < total
      · rw [if_pos more]
        refine receiveTurn_bind_speaks exact short more fun chunk something within => ?_
        rw [← List.length_append] at within ⊢
        exact ih (total - (received ++ chunk).length)
          (by rw [List.length_append] at within ⊢; omega) within rfl
      · have same : received.length = total := Nat.le_antisymm le (Nat.not_lt.mp more)
        rw [if_neg more, same]
        exact (Speaks.pure received).mono fun _ nil => nil ▸ .all

theorem receiveText_speaks (exact : guest.ReadsExactly) {length : UInt32}
    (short : length.toNat ≤ Transport.maxPayload) :
    Speaks (Transport.receiveText guest.recorded length) (Protocol.fetching length.toNat 0) := by
  rw [Transport.receiveText_eq, ← mul_one (Protocol.fetching length.toNat 0)]
  exact (receiveChunks_speaks exact short (Nat.zero_le _)).bind fun _ => .ofExcept _

/-! ## Answers about a text -/

/-- As far as the plugin has answered, the text was answered by `code`, and the report has the given
length. -/
structure Told (code length : Int32) (events : List Event) : Prop where
  code : ∀ answer, .call .format [] (.ok (some answer)) ∈ events → answer = code
  length : ∀ callee, callee = .getFormattedText ∨ callee = .getErrorText →
    ∀ answer, .call callee [] (.ok (some answer)) ∈ events → answer = length

namespace Told

variable {code length : Int32} {before after : List Event}

theorem of_quiet (quiet : ∀ event ∈ before, event.Quiet) : Told code length before where
  code answer mem := by cases quiet _ mem
  length := by
    rintro callee (rfl | rfl) answer mem
    · cases quiet _ mem
    · cases quiet _ mem

theorem of_call {callee : Export} {args : List Int32} {outcome : Except Failure (Option Int32)}
    (same : ∀ answer, outcome = .ok (some answer) →
      answer = if callee = .format then code else length) :
    Told code length [.call callee args outcome] where
  code answer mem := by
    cases List.mem_singleton.mp mem
    exact same answer rfl
  length := by
    rintro callee (rfl | rfl) answer mem
    · cases List.mem_singleton.mp mem
      exact same answer rfl
    · cases List.mem_singleton.mp mem
      exact same answer rfl

/-- The text is answered, and a report can still have any length. -/
theorem answered (code length : Int32) : Told code length [.call .format [] (.ok (some code))] := by
  refine of_call ?_
  rintro answer ⟨⟩
  rfl

theorem append (first : Told code length before) (second : Told code length after) :
    Told code length (before ++ after) where
  code answer mem := (List.mem_append.mp mem).elim (first.code answer) (second.code answer)
  length callee reports answer mem :=
    (List.mem_append.mp mem).elim (first.length callee reports answer)
      (second.length callee reports answer)

end Told

/-- By the answers that are in the events, they ask for a word of the language. -/
def Completes (language : Int32 → Nat → Language Letter) (events : List Event) : Prop :=
  ∃ code length : Int32, Told code length events ∧
    letters events ∈ language code length.toInt.toNat

/-- By the answers that are in the events, they ask for the beginning of a word of the language. -/
def Commences (language : Int32 → Nat → Language Letter) (events : List Event) : Prop :=
  ∃ code length : Int32, Told code length events ∧
    Begins (language code length.toInt.toNat) (letters events)

/-- After the answer that goes with a report, the report is asked for, and as much of it as is
announced is fetched. -/
theorem report_performs (exact : guest.ReadsExactly) {code : Int32} {callee : Export}
    (due : ∀ length, Protocol.consultation code length =
      Protocol.call .format [] * Protocol.call callee [] * Protocol.fetching length 0)
    (reports : callee ≠ .format)
    (outcome : String → Except Failure α) :
    Performs (do
        let length ← Verdict.stagedLength guest.recorded callee
        let text ← Transport.receiveText guest.recorded length
        Exchange.ofExcept (outcome text))
      (fun _ after =>
        Completes Protocol.consultation ([.call .format [] (.ok (some code))] ++ after))
      (fun _ after =>
        Commences Protocol.consultation ([.call .format [] (.ok (some code))] ++ after)) := by
  have asked : [.call .format [], .call callee []] ∈
      Protocol.call .format [] * Protocol.call callee [] :=
    Language.append_mem_mul (Protocol.call_mem _ _) (Protocol.call_mem _ _)
  have begun : ∀ length, Begins (Protocol.consultation code length)
      [.call .format [], .call callee []] := by
    intro length
    obtain ⟨word, mem⟩ := Protocol.fetching_nonempty length
    rw [due]
    exact (Begins.of_mem asked).mul (Begins.of_mem mem).nil
  have called : Performs (guest.recorded.callInt callee [])
      (fun length events => events = [.call callee [] (.ok (some length))])
      (fun _ after =>
        Commences Protocol.consultation ([.call .format [] (.ok (some code))] ++ after)) :=
    .callInt (fun _ => rfl) ⟨code, 0, (Told.answered code 0).append (.of_call nofun), begun _⟩
      fun _ => ⟨code, 0, (Told.answered code 0).append (.of_call nofun), begun _⟩
  rw [Verdict.stagedLength, bind_assoc]
  refine called.andThen ?_ fun _ _ stopped => stopped
  rintro length before rfl
  have told : Told code length [.call .format [] (.ok (some code)),
      .call callee [] (.ok (some length))] := by
    refine (Told.answered code length).append (.of_call ?_)
    rintro answer ⟨⟩
    rw [if_neg reports]
  by_cases nonneg : 0 ≤ length
  · have counted : length.toUInt32.toNat = length.toInt.toNat :=
      toUInt32_of_nonneg (Int32.le_iff_toInt_le.mp nonneg)
    have short : length.toUInt32.toNat ≤ Transport.maxPayload := by
      rw [counted]
      exact toNat_toInt_le_maxPayload length
    have fetch := (receiveText_speaks exact short).bind fun text =>
      Speaks.ofExcept (σ := σ) (outcome text)
    rw [counted, mul_one] at fetch
    have quiet : KeepsQuiet (do
        let text ← Transport.receiveText guest.recorded length.toUInt32
        Exchange.ofExcept (outcome text)) :=
      .bind ((KeepsQuiet.inherited guest).receiveText _) fun _ => .ofExcept _
    rw [if_pos nonneg, pure_bind]
    refine (fetch.and quiet).mono ?_ ?_
    · rintro _ after ⟨mem, quiet⟩
      refine ⟨code, length, told.append (.of_quiet quiet), ?_⟩
      rw [due]
      exact Language.append_mem_mul asked mem
    · rintro _ after ⟨begun, quiet⟩
      refine ⟨code, length, told.append (.of_quiet quiet), ?_⟩
      rw [due]
      exact Begins.append asked begun
  · rw [if_neg nonneg]
    exact .fail ⟨code, length, told, begun _⟩

/-- However a text is answered, nothing is asked for but the report that goes with the answer. -/
theorem judge_performs (exact : guest.ReadsExactly) (code : Int32) (submitted : String) :
    Performs (do
        let verdict ← Verdict.resolve guest.recorded code
        Invocation.collect guest.recorded submitted verdict)
      (fun _ after =>
        Completes Protocol.consultation ([.call .format [] (.ok (some code))] ++ after))
      (fun _ after =>
        Commences Protocol.consultation ([.call .format [] (.ok (some code))] ++ after)) := by
  rw [Verdict.resolve]
  by_cases unchanged : code = Verdict.unchangedCode
  · subst unchanged
    rw [if_pos rfl]
    exact .pure ⟨_, 0, .answered _ 0, Protocol.consultation_mem (by decide) (by decide) 0⟩
  · rw [if_neg unchanged]
    by_cases formatted : code = Verdict.formattedCode
    · subst formatted
      have due : ∀ length, Protocol.consultation Verdict.formattedCode length =
          Protocol.call .format [] * Protocol.call .getFormattedText [] *
            Protocol.fetching length 0 :=
        fun length => (mul_assoc _ _ _).symm
      rw [if_pos rfl]
      simp only [bind_assoc, pure_bind]
      exact report_performs exact due (by decide) fun text => .ok (Output.mk text .formatted)
    · rw [if_neg formatted]
      by_cases errored : code = Verdict.erroredCode
      · subst errored
        have due : ∀ length, Protocol.consultation Verdict.erroredCode length =
            Protocol.call .format [] * Protocol.call .getErrorText [] *
              Protocol.fetching length 0 :=
          fun length => (mul_assoc _ _ _).symm
        rw [if_pos rfl]
        simp only [bind_assoc, pure_bind]
        exact report_performs exact due (by decide) fun text => .error (.rejected text)
      · have asked := Protocol.consultation_mem formatted errored 0
        rw [if_neg errored]
        exact .fail ⟨code, 0, .answered code 0, .of_mem asked⟩

/-- A text is formatted, and what comes of it is asked for by the answer. -/
theorem consult_performs (exact : guest.ReadsExactly) (submitted : String) :
    Performs (do
        let code ← (guest.recorded.callInt .format []).mapFailure recoverTrap
        let verdict ← Verdict.resolve guest.recorded code
        Invocation.collect guest.recorded submitted verdict)
      (fun _ => Completes Protocol.consultation) (fun _ => Commences Protocol.consultation) := by
  have begun : Begins (Protocol.consultation 0 0) [.call .format []] :=
    .of_mem (Protocol.consultation_mem (by decide) (by decide) 0)
  have called : Performs ((guest.recorded.callInt .format []).mapFailure recoverTrap)
      (fun code events => events = [.call .format [] (.ok (some code))])
      (fun _ => Commences Protocol.consultation) :=
    .mapFailure (.callInt (fun _ => rfl) ⟨0, 0, .of_call nofun, begun⟩
      fun _ => ⟨0, 0, .of_call nofun, begun⟩)
  refine called.andThen ?_ fun _ _ stopped => stopped
  rintro code before rfl
  exact judge_performs exact code submitted

/-! ## Requests -/

/-- Before a text is formatted nothing is answered about it, so any answer is still to come. -/
theorem Speaks.leadsTo [Inhabited α] {x : Exchange (Recorded σ) α}
    {f : α → Exchange (Recorded σ) β} {first : Language Letter}
    {language : Int32 → Nat → Language Letter} (speaks : Speaks x first) (quiet : KeepsQuiet x)
    (goesOn : ∀ value, Performs (f value) (fun _ => Completes language)
      (fun _ => Commences language)) :
    Performs (x >>= f) (fun _ => Completes fun code length => first * language code length)
      (fun _ => Commences fun code length => first * language code length) := by
  intro r
  -- Should `x` fail, its letters still begin a word, because the rest could be said.
  have possible : ∃ code length : Int32, Begins (language code length.toInt.toNat) [] := by
    refine (goesOn default (.start r.guest)).state
      (P := fun _ => ∃ code length : Int32, Begins (language code length.toInt.toNat) []) ?_ ?_
    · rintro _ _ ⟨events, -, code, length, -, mem⟩
      exact ⟨code, length, (Begins.of_mem mem).nil⟩
    · rintro _ _ ⟨events, -, code, length, -, begun⟩
      exact ⟨code, length, begun.nil⟩
  refine Performs.andThen (Performs.and speaks quiet) ?_ ?_ r
  · rintro value before ⟨mem, quiet⟩
    refine (goesOn value).mono ?_ ?_
    · rintro answer after ⟨code, length, told, mem'⟩
      refine ⟨code, length, .append (.of_quiet quiet) told, ?_⟩
      rw [letters_append]
      exact Language.append_mem_mul mem mem'
    · rintro failure after ⟨code, length, told, begun⟩
      refine ⟨code, length, .append (.of_quiet quiet) told, ?_⟩
      rw [letters_append]
      exact .append mem begun
  · rintro failure events ⟨begun, quiet⟩
    obtain ⟨code, length, rest⟩ := possible
    exact ⟨code, length, .of_quiet quiet, begun.mul rest⟩

theorem submit_performs (exact : guest.ReadsExactly) (path text : String) :
    Performs (do
        let verdict ← Invocation.submit guest.recorded path text
        Invocation.collect guest.recorded text verdict)
      (fun _ => Completes fun code length =>
        Protocol.submission path text * Protocol.consultation code length)
      (fun _ => Commences fun code length =>
        Protocol.submission path text * Protocol.consultation code length) := by
  have inherited := KeepsQuiet.inherited guest
  simp only [Invocation.submit, bind_assoc, Protocol.submission, mul_assoc]
  refine (send_speaks _).leadsTo (inherited.send _) fun _ => ?_
  refine (Speaks.callUnit _ _).leadsTo (inherited.callUnit _ _ rfl) fun _ => ?_
  refine (send_speaks _).leadsTo (inherited.send _) fun _ => ?_
  exact consult_performs exact text

theorem request_performs (exact : guest.ReadsExactly) (request : Request) :
    Performs (formatWith guest.recorded request)
      (fun _ => Completes (Protocol.request request))
      (fun _ => Commences (Protocol.request request)) := by
  have inherited := KeepsQuiet.inherited guest
  have reset := inherited.callUnit .resetConfig [] rfl
  rw [formatWith_eq, Invocation.conversation]
  cases fine : request.patch.globalConfig.problem? with
  | none =>
      have positive := (GlobalConfig.problem?_eq_none_iff _).mp fine
      have language : Protocol.request request = fun code length =>
          Protocol.call .resetConfig [] * (Protocol.configuration request.patch *
            (Protocol.submission request.path request.text *
              Protocol.consultation code length)) := by
        funext code length
        rw [Protocol.request, if_pos positive]
      have configured : Speaks (Config.push guest.recorded request.patch)
          (Protocol.configuration request.patch) := by
        rw [Config.push, fine]
        exact (commit_speaks _ _).bind fun _ => commit_speaks _ _
      rw [language]
      refine (Speaks.callUnit _ _).leadsTo reset fun _ => ?_
      refine configured.leadsTo (inherited.push _) fun _ => ?_
      exact submit_performs exact _ _
  | some problem =>
      have zero : ¬ (request.patch.globalConfig.lineWidth ≠ 0 ∧
          request.patch.globalConfig.indentWidth ≠ 0) := by
        rw [← GlobalConfig.problem?_eq_none_iff, fine]
        exact Option.some_ne_none problem
      have language : Protocol.request request = fun _ _ => Protocol.call .resetConfig [] * 1 := by
        funext code length
        rw [Protocol.request, if_neg zero]
      have refused : Config.push guest.recorded request.patch =
          Exchange.fail (.serialization Scope.global.name problem) := by
        rw [Config.push, fine]
      rw [language, refused]
      refine (Speaks.callUnit _ _).leadsTo reset fun _ => ?_
      exact .fail ⟨0, 0, .of_quiet (List.forall_mem_nil _), .of_mem Language.nil_mem_one⟩

end Speaks

/-- Whatever a plugin answers, what a request asks of it is the beginning of a word of the request's
language, and the whole word if the request succeeds.  The plugin's own answers, as far as there are
any, tell which word that is. -/
theorem formatWith_speaks {σ : Type} {guest : Guest σ} (exact : guest.ReadsExactly)
    (request : Request) (s : σ) :
    ∃ code length : Int32, Told code length (guest.eventsOf request s) ∧
      ∃ word ∈ Protocol.request request code length.toInt.toNat,
        letters (guest.eventsOf request s) <+: word ∧
        ∀ output, (formatWith guest request s).1 = .ok output →
          letters (guest.eventsOf request s) = word := by
  rcases formatWith_performs (request_performs exact request) s with
    ⟨output, -, code, length, told, mem⟩ | ⟨failure, failed, code, length, told, begun⟩
  · exact ⟨code, length, told, _, mem, List.prefix_refl _, fun _ _ => rfl⟩
  · obtain ⟨word, mem, isPrefix⟩ := begun
    refine ⟨code, length, told, word, mem, isPrefix, ?_⟩
    intro output answered
    rw [failed] at answered
    cases answered

theorem formatWith_speaks_sample :
    ∃ code length : Int32,
      Told code length (ScriptedPlugin.guest.eventsOf .sample .accenting) ∧
      ∃ word ∈ Protocol.request .sample code length.toInt.toNat,
        letters (ScriptedPlugin.guest.eventsOf .sample .accenting) <+: word ∧
        ∀ output, (formatWith ScriptedPlugin.guest .sample .accenting).1 = .ok output →
          letters (ScriptedPlugin.guest.eventsOf .sample .accenting) = word :=
  formatWith_speaks ScriptedPlugin.readsExactly .sample .accenting

end FormatterHost
