import FormatterHost.Proofs.Conformance
import FormatterHost.Proofs.Memory
import FormatterHost.Proofs.Scripted
import FormatterHost.Proofs.Utf8
import FormatterHost.Transport.Basic

/-!
# Exact transfers

Whatever a conforming plugin does with its staging buffer between two calls, sending leaves exactly
the payload in its shared bytes, and receiving answers exactly the bytes asked for.  Both loops are
followed by an invariant: what has passed, together with what is left, is the whole.
-/

namespace FormatterHost

variable {σ : Type} {mishap : σ → Prop} {guest : Guest σ}
variable {view : σ → Option PluginView} {s : σ} {p : PluginView}

/-! ## Asking for the buffer -/

/-- A conforming plugin is found to have a usable buffer, and asking changes nothing. -/
theorem query_leads (shares : SharesBytes mishap guest view) (seen : view s = some p) :
    Leads view mishap (StagingBuffer.query guest) s
      (fun buffer p' => buffer.offset.toNat = p.window.start ∧
        buffer.capacity.toNat = p.window.size ∧ p' = p) (· = p) := by
  refine .andThen (.callInt (shares.capacity s p seen)) ?_ fun _ same => same
  rintro capacity s' _ seen' ⟨rfl, rfl⟩
  refine .andThen (.callInt (shares.offset s' _ seen')) ?_ fun _ same => same
  rintro offset s'' p seen'' ⟨rfl, rfl⟩
  rw [StagingBuffer.ofReported, dif_pos ⟨p.window.offset_nonneg, p.window.capacity_pos⟩]
  exact .pure seen'' ⟨toUInt32_of_nonneg p.window.offset_nonneg,
    toUInt32_of_nonneg (Int.le_of_lt p.window.capacity_pos), rfl⟩

/-! ## Sending -/

namespace Transport

/-- One turn of the sending loop; the answer is what is left to send. -/
def sendTurn (guest : Guest σ) (left : Bytes) : Exchange σ Bytes := do
  let buffer ← StagingBuffer.query guest
  let count := min left.length buffer.capacity.toNat
  guest.write buffer.offset (left.take count)
  guest.callUnit .appendStaged [Int32.ofNat count]
  return left.drop count

/-- The sending loop takes turns until nothing is left. -/
theorem sendChunks_eq (guest : Guest σ) (left : Bytes) :
    sendChunks guest left = (do
      let rest ← sendTurn guest left
      if rest.isEmpty then return () else sendChunks guest rest) := by
  rw [sendChunks, sendTurn]
  simp only [bind_assoc, pure_bind]
  congr 1
  funext buffer
  congr 1
  funext _
  congr 1
  funext _
  simp only [List.isEmpty_iff, List.drop_eq_nil_iff]
  by_cases more : min left.length buffer.capacity.toNat < left.length
  · rw [if_pos more, if_neg (Nat.not_le.mpr more)]
  · rw [if_neg more, if_pos (Nat.not_lt.mp more)]

end Transport

/-- A turn appends the beginning of what was left to send, and at least one byte of it. -/
theorem sendTurn_leads (shares : SharesBytes mishap guest view) (seen : view s = some p)
    (left : Bytes) (room : left.length ≤ p.room) :
    Leads view mishap (Transport.sendTurn guest left) s
      (fun rest p' => p.shared ++ left = p'.shared ++ rest ∧ rest.length ≤ left.length - 1 ∧
        rest.length ≤ p'.room ∧ p'.kept = p.kept)
      (fun p' => p'.kept = p.kept) := by
  refine .andThen (query_leads shares seen) ?_ fun _ same => by rw [same]
  rintro buffer s₁ p seen₁ ⟨start, capacity, rfl⟩
  have positive := buffer.capacity_pos
  have small : min left.length buffer.capacity.toNat ≤ p.window.size := by
    rw [capacity]
    exact Nat.min_le_right _ _
  have le := Nat.min_le_left left.length buffer.capacity.toNat
  have progress : left.length - min left.length buffer.capacity.toNat ≤ left.length - 1 := by omega
  -- From here on only these bounds matter, not where the number comes from.
  generalize min left.length buffer.capacity.toNat = count at small le progress ⊢
  have length : (left.take count).length = count := List.length_take_of_le le
  have counted := toInt_ofNat_of_le (Nat.le_trans small p.window.size_le_maxPayload)
  have written := LinearMemory.slice_put p.window.memory p.window.start (left.take count)
    (by have := p.window.start_add_size_le; omega)
  refine .andThen (shares.write s₁ p seen₁ _ _ start (by omega)) ?_ fun _ same => by rw [same]
  rintro _ s₂ _ seen₂ rfl
  have appended := shares.append s₂ _ seen₂ (Int32.ofNat count) (by omega)
    (by simp only [counted, Window.size_write]; omega) (by simp only [counted]; omega)
  refine .andThen (.callUnit appended) ?_ fun _ same => by rw [same]
  rintro _ s₃ p' seen₃ ⟨shared, room', kept⟩
  rw [counted, Int.toNat_natCast] at shared room'
  rw [length] at written
  rw [Window.memory_write, Window.start_write, written] at shared
  refine .pure seen₃ ⟨?_, ?_, ?_, kept⟩
  · rw [shared, List.append_assoc, List.take_append_drop]
  · rw [List.length_drop]
    exact progress
  · rw [List.length_drop]
    exact Nat.sub_le_of_le_add (Nat.le_trans room room')

/-- The invariant of the sending loop: the shared bytes followed by what is left to send are always
the same bytes, and in the end nothing is left. -/
theorem sendChunks_leads (shares : SharesBytes mishap guest view) (seen : view s = some p)
    (left : Bytes) (room : left.length ≤ p.room) :
    Leads view mishap (Transport.sendChunks guest left) s
      (fun _ p' => p'.shared = p.shared ++ left ∧ p'.kept = p.kept)
      (fun p' => p'.kept = p.kept) := by
  induction size : left.length using Nat.strongRecOn generalizing left s p with
  | ind n ih =>
      rw [Transport.sendChunks_eq]
      refine .andThen (sendTurn_leads shares seen left room) ?_ fun _ kept => kept
      rintro rest s' p' seen' ⟨invariant, shorter, room', kept⟩
      cases rest with
      | nil =>
          rw [List.append_nil] at invariant
          exact .pure seen' ⟨invariant.symm, kept⟩
      | cons byte rest =>
          have less : (byte :: rest).length < n := by
            rw [List.length_cons] at shorter ⊢
            omega
          refine (ih _ less seen' _ room' rfl).mono ?_ fun _ kept' => kept'.trans kept
          rintro _ p'' ⟨shared, kept'⟩
          exact ⟨shared.trans invariant.symm, kept'.trans kept⟩

/-- A payload that the plugin can count replaces the shared bytes. -/
theorem send_leads (shares : SharesBytes mishap guest view) (seen : view s = some p)
    {payload : Bytes} (short : payload.length ≤ Transport.maxPayload) :
    Leads view mishap (Transport.send guest payload) s
      (fun _ p' => p'.shared = payload ∧ p'.kept = p.kept) (fun p' => p'.kept = p.kept) := by
  have counted := toInt_ofNat_of_le short
  have cleared := shares.clear s p seen (Int32.ofNat payload.length) (by omega)
  rw [Transport.send, if_neg (Nat.not_lt.mpr short)]
  refine .andThen (.callUnit cleared) ?_ fun _ same => by rw [same]
  rintro _ s' p' seen' ⟨shared, room, kept⟩
  refine (sendChunks_leads shares seen' payload (by omega)).mono ?_ fun _ kept' => kept'.trans kept
  rintro _ p'' ⟨shared', kept'⟩
  rw [shared', shared]
  exact ⟨rfl, kept'.trans kept⟩

/-- Every payload that plugins can count arrives exactly, whatever was shared before, and so it does
in two plugins that have nothing but the protocol in common. -/
theorem send_delivers {τ : Type} {other : Guest τ} {otherView : τ → Option PluginView} {t : τ}
    {q : PluginView} (shares : SharesBytes never guest view)
    (otherShares : SharesBytes never other otherView) (seen : view s = some p)
    (otherSeen : otherView t = some q) {payload : Bytes}
    (short : payload.length ≤ Transport.maxPayload) :
    ∃ s' p' t' q', Transport.send guest payload s = (.ok (), s') ∧ view s' = some p' ∧
      p'.shared = payload ∧ p'.kept = p.kept ∧
      Transport.send other payload t = (.ok (), t') ∧ otherView t' = some q' ∧
      q'.shared = p'.shared ∧ q'.kept = q.kept := by
  obtain ⟨_, s', p', sent, seen', shared, kept⟩ := (send_leads shares seen short).exists_answer
  obtain ⟨_, t', q', sent', otherSeen', shared', kept'⟩ :=
    (send_leads otherShares otherSeen short).exists_answer
  exact ⟨s', p', t', q', sent, seen', shared, kept, sent', otherSeen', shared'.trans shared.symm,
    kept'⟩

/-- A plugin whose buffer holds a single byte and moves back and forth. -/
def ScriptedPlugin.narrow : ScriptedPlugin where
  offsets := [0, 3]
  capacities := [1]
  rules := []
  memory := .zeros 4
  shared := [0xFF]

/-- A plugin whose buffer holds three bytes or two. -/
def ScriptedPlugin.wide : ScriptedPlugin where
  offsets := [2]
  capacities := [3, 2]
  rules := []
  memory := .zeros 8

theorem send_delivers_across_a_character :
    ∃ s' p' t' q', Transport.send ScriptedPlugin.guest [0xC3, 0xA9] .narrow = (.ok (), s') ∧
      ScriptedPlugin.view [] s' = some p' ∧ p'.shared = [0xC3, 0xA9] ∧
      p'.kept = ⟨none, none, none⟩ ∧
      Transport.send ScriptedPlugin.guest [0xC3, 0xA9] .wide = (.ok (), t') ∧
      ScriptedPlugin.view [] t' = some q' ∧ q'.shared = p'.shared ∧ q'.kept = ⟨none, none, none⟩ :=
  send_delivers (ScriptedPlugin.sharesBytes []) (ScriptedPlugin.sharesBytes [])
    (ScriptedPlugin.view_of_usable .narrow (by decide))
    (ScriptedPlugin.view_of_usable .wide (by decide)) (by decide)

/-! ## Receiving -/

/-- A turn answers the bytes that follow those received, and at least one of them. -/
theorem receiveTurn_leads (shares : SharesBytes mishap guest view) (seen : view s = some p)
    {total : Nat} {received : Bytes} (more : received.length < total)
    (there : total ≤ p.shared.length) (short : total ≤ Transport.maxPayload) :
    Leads view mishap (Transport.receiveTurn guest total received) s
      (fun chunk p' => (∃ count, 0 < count ∧ received.length + count ≤ total ∧
        chunk = (p.shared.drop received.length).take count) ∧
        p'.shared = p.shared ∧ p'.kept = p.kept)
      (fun p' => p'.kept = p.kept) := by
  refine .andThen (query_leads shares seen) ?_ fun _ same => by rw [same]
  rintro sizing s₁ p seen₁ ⟨-, capacity, rfl⟩
  have positive := sizing.capacity_pos
  have small : min (total - received.length) sizing.capacity.toNat ≤ p.window.size := by
    rw [capacity]
    exact Nat.min_le_right _ _
  have le := Nat.min_le_left (total - received.length) sizing.capacity.toNat
  have progress : 0 < min (total - received.length) sizing.capacity.toNat := by omega
  generalize min (total - received.length) sizing.capacity.toNat = count at small le progress ⊢
  have skipped := toInt_ofNat_of_le (Nat.le_trans (Nat.le_of_lt more) short)
  have counted := toInt_ofNat_of_le (Nat.le_trans small p.window.size_le_maxPayload)
  -- The chunk is sized by this buffer, but it is read from the one that is asked for afterwards.
  have staged := shares.stage s₁ p seen₁ (Int32.ofNat received.length) (Int32.ofNat count)
    (by omega) (by omega) (by omega) (by omega)
  rw [skipped, counted, Int.toNat_natCast, Int.toNat_natCast] at staged
  refine .andThen (.callUnit staged) ?_ fun _ same => by rw [same]
  rintro _ s₂ p₂ seen₂ ⟨fits, slice, shared, kept⟩
  refine .andThen (query_leads shares seen₂) ?_ fun _ same => by rw [same, kept]
  rintro buffer s₃ p₃ seen₃ ⟨start, -, rfl⟩
  have asked := toNat_ofNat_of_le (Nat.le_trans small p.window.size_le_maxPayload)
  have answered := shares.read s₃ p₃ seen₃ buffer.offset (UInt32.ofNat count)
    (by rw [start, asked]; exact fits)
  rw [start, asked, slice] at answered
  refine answered.mono ?_ fun _ same => by rw [same, kept]
  rintro chunk p₄ ⟨rfl, rfl⟩
  exact ⟨⟨count, progress, by omega, rfl⟩, shared, kept⟩

/-- The invariant of the receiving loop: what has been received is the beginning of the shared
bytes, and those do not change. -/
theorem receiveChunks_leads (shares : SharesBytes mishap guest view) (seen : view s = some p)
    {total : Nat} (there : total ≤ p.shared.length) (short : total ≤ Transport.maxPayload)
    {received : Bytes} (le : received.length ≤ total)
    (beginning : received = p.shared.take received.length) :
    Leads view mishap (Transport.receiveChunks guest total received) s
      (fun bytes p' => bytes = p.shared.take total ∧ p'.shared = p.shared ∧ p'.kept = p.kept)
      (fun p' => p'.kept = p.kept) := by
  let inv (received : Bytes) (q : PluginView) : Prop :=
    received.length ≤ total ∧ received = p.shared.take received.length ∧
      q.shared = p.shared ∧ q.kept = p.kept
  refine Leads.loop inv (total - ·.length) ?_ seen ⟨le, beginning, rfl, rfl⟩
  rintro received s' q seen' ⟨le, beginning, shared, kept⟩
  by_cases more : received.length < total
  · rw [if_pos more]
    refine .andThen (receiveTurn_leads shares seen' more (shared ▸ there) short) ?_
      fun _ kept' => kept'.trans kept
    rintro chunk s'' q' seen'' ⟨⟨count, positive, within, next⟩, shared', kept'⟩
    rw [shared] at next
    have length : chunk.length = count := by
      rw [next, List.length_take_of_le]
      rw [List.length_drop]
      omega
    have total' : (received ++ chunk).length = received.length + count := by
      rw [List.length_append, length]
    have beginning' : received ++ chunk = p.shared.take (received ++ chunk).length := by
      rw [total', List.take_add, ← next, ← beginning]
    have nearer : total - (received ++ chunk).length < total - received.length := by omega
    exact .pure seen''
      ⟨⟨by omega, beginning', shared'.trans shared, kept'.trans kept⟩, nearer⟩
  · have all : received.length = total := by omega
    rw [if_neg more]
    rw [all] at beginning
    exact .pure seen' ⟨beginning, shared, kept⟩

/-- The beginning of the shared bytes, of any length that they have, can be received. -/
theorem receive_leads (shares : SharesBytes mishap guest view) (seen : view s = some p)
    {length : UInt32} (there : length.toNat ≤ p.shared.length)
    (short : length.toNat ≤ Transport.maxPayload) :
    Leads view mishap (Transport.receive guest length) s
      (fun bytes p' => bytes = p.shared.take length.toNat ∧ p'.shared = p.shared ∧
        p'.kept = p.kept)
      (fun p' => p'.kept = p.kept) :=
  receiveChunks_leads shares seen there short (Nat.zero_le _) rfl

/-! ## Receiving text -/

namespace Transport

/-- The text that received bytes are. -/
def asText (bytes : Bytes) : Except Failure String :=
  match Utf8.decode bytes with
  | .ok text => .ok text
  | .error fault => .error (.invalidUtf8 fault.message)

/-- Whether bytes are a text is judged when all of them are there. -/
theorem receiveText_eq (guest : Guest σ) (length : UInt32) :
    receiveText guest length = (do
      let bytes ← receive guest length
      Exchange.ofExcept (asText bytes)) := by
  rw [receiveText]
  congr 1
  funext bytes
  rw [asText]
  cases Utf8.decode bytes <;> rfl

theorem asText_eq_ok_iff (bytes : Bytes) (text : String) :
    asText bytes = .ok text ↔ bytes = Utf8.encode text := by
  rw [← Utf8.decode_eq_ok_iff, asText]
  cases Utf8.decode bytes <;> simp

theorem asText_cases (bytes : Bytes) :
    (∃ text, asText bytes = .ok text) ∨ ∃ detail, asText bytes = .error (.invalidUtf8 detail) := by
  rw [asText]
  cases Utf8.decode bytes with
  | ok text => exact .inl ⟨text, rfl⟩
  | error fault => exact .inr ⟨fault.message, rfl⟩

/-- Bytes encode a text as a whole or not at all. -/
theorem asText_split (bytes : Bytes) :
    (∃ text, bytes = Utf8.encode text ∧ asText bytes = .ok text) ∨
      (∀ text, bytes ≠ Utf8.encode text) ∧
        ∃ detail, asText bytes = .error (.invalidUtf8 detail) := by
  rcases asText_cases bytes with ⟨text, read⟩ | ⟨detail, failed⟩
  · exact .inl ⟨text, (asText_eq_ok_iff bytes text).mp read, read⟩
  · refine .inr ⟨?_, detail, failed⟩
    intro text same
    rw [(asText_eq_ok_iff bytes text).mpr same] at failed
    cases failed

end Transport

/-- Received bytes, and their text if they are one, are the beginning of the shared bytes. -/
theorem exists_received (shares : SharesBytes never guest view) (seen : view s = some p)
    {length : UInt32} (there : length.toNat ≤ p.shared.length)
    (short : length.toNat ≤ Transport.maxPayload) :
    ∃ s' p', Transport.receive guest length s = (.ok (p.shared.take length.toNat), s') ∧
      Transport.receiveText guest length s = (Transport.asText (p.shared.take length.toNat), s') ∧
      view s' = some p' ∧ p'.shared = p.shared := by
  obtain ⟨_, s', p', received, seen', rfl, shared, -⟩ :=
    (receive_leads shares seen there short).exists_answer
  refine ⟨s', p', received, ?_, seen', shared⟩
  rw [Transport.receiveText_eq, Exchange.bind_of_ok received, Exchange.ofExcept_apply]

/-- The beginning of the shared bytes is received exactly, and as the text that it encodes; bytes
that encode no text are refused as a whole.  A text that has been sent is received again. -/
theorem receive_retrieves (shares : SharesBytes never guest view) (seen : view s = some p) :
    (∀ length : UInt32, length.toNat ≤ p.shared.length → length.toNat ≤ Transport.maxPayload →
      ∃ outcome s' p', Transport.receive guest length s = (.ok (p.shared.take length.toNat), s') ∧
        Transport.receiveText guest length s = (outcome, s') ∧ view s' = some p' ∧
        p'.shared = p.shared ∧
        (∀ text, outcome = .ok text ↔ p.shared.take length.toNat = Utf8.encode text) ∧
        ((∃ text, outcome = .ok text) ∨ ∃ detail, outcome = .error (.invalidUtf8 detail))) ∧
    ∀ text, (Utf8.encode text).length ≤ Transport.maxPayload →
      ∃ s' p', (do
          Transport.sendText guest text
          Transport.receiveText guest (UInt32.ofNat (Utf8.encode text).length)) s =
        (.ok text, s') ∧ view s' = some p' ∧ p'.shared = Utf8.encode text := by
  constructor
  · intro length there short
    obtain ⟨s', p', received, read, seen', shared⟩ := exists_received shares seen there short
    exact ⟨_, s', p', received, read, seen', shared, Transport.asText_eq_ok_iff _,
      Transport.asText_cases _⟩
  · intro text short
    obtain ⟨_, s₁, p₁, sent, seen₁, shared₁, -⟩ := (send_leads shares seen short).exists_answer
    have counted := toNat_ofNat_of_le short
    have there : (UInt32.ofNat (Utf8.encode text).length).toNat ≤ p₁.shared.length :=
      Nat.le_of_eq (by rw [counted, shared₁])
    obtain ⟨s', p', -, read, seen', shared⟩ :=
      exists_received shares seen₁ there (by rw [counted]; exact short)
    rw [counted, shared₁, List.take_length,
      (Transport.asText_eq_ok_iff _ text).mpr rfl] at read
    refine ⟨s', p', ?_, seen', shared.trans shared₁⟩
    rw [Exchange.bind_of_ok (show Transport.sendText guest text s = (.ok (), s₁) from sent), read]

/-- A plugin with a buffer of two bytes or three, now here and now there, that shares a text and one
more byte. -/
def ScriptedPlugin.shifting : ScriptedPlugin where
  offsets := [0, 5]
  capacities := [2, 3]
  rules := []
  memory := .zeros 8
  shared := [0x65, 0xC3, 0xA9, 0x21, 0xFF]

/-- The first chunk ends within a character. -/
theorem receive_retrieves_in_chunks :
    ∃ outcome s' p',
      Transport.receive ScriptedPlugin.guest 4 .shifting = (.ok [0x65, 0xC3, 0xA9, 0x21], s') ∧
      Transport.receiveText ScriptedPlugin.guest 4 .shifting = (outcome, s') ∧
      ScriptedPlugin.view [] s' = some p' ∧ p'.shared = [0x65, 0xC3, 0xA9, 0x21, 0xFF] ∧
      (∀ text, outcome = .ok text ↔ [0x65, 0xC3, 0xA9, 0x21] = Utf8.encode text) ∧
      ((∃ text, outcome = .ok text) ∨ ∃ detail, outcome = .error (.invalidUtf8 detail)) :=
  (receive_retrieves (ScriptedPlugin.sharesBytes [])
    (ScriptedPlugin.view_of_usable .shifting (by decide))).1 4 (by decide) (by decide)

end FormatterHost
