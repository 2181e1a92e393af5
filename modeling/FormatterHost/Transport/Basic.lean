import FormatterHost.Bytes.Utf8
import FormatterHost.Transport.StagingBuffer

/-!
# Transfers through the staging buffer

The staging buffer is usually far smaller than what has to pass through it.

* Sending empties the shared bytes of the plugin, then repeats: ask for the buffer, write as much
  as it holds, have the plugin append it.
* Receiving repeats: ask for the buffer, have the plugin stage as much as it holds, ask for the
  buffer again, since the plugin may have moved it, and read.
-/

namespace FormatterHost.Transport

variable {σ : Type}

/-- The largest number of bytes that a plugin can count. -/
def maxPayload : Nat := 2147483647

/-- Sends bytes chunk by chunk.  Every chunk but the single one of an empty payload moves at least
one byte. -/
def sendChunks (guest : Guest σ) (left : Bytes) : Exchange σ Unit := do
  let buffer ← StagingBuffer.query guest
  let count := min left.length buffer.capacity.toNat
  guest.write buffer.offset (left.take count)
  guest.callUnit .appendStaged [Int32.ofNat count]
  if count < left.length then
    sendChunks guest (left.drop count)
termination_by left.length
decreasing_by
  have := buffer.capacity_pos
  simp only [List.length_drop]
  omega

/-- Replaces the shared bytes of the plugin by `payload`. -/
def send (guest : Guest σ) (payload : Bytes) : Exchange σ Unit := do
  if maxPayload < payload.length then
    .fail (.internal
      s!"payload of {payload.length} bytes exceeds the guest's addressable length")
  else
    guest.callUnit .clearShared [Int32.ofNat payload.length]
    sendChunks guest payload

/-- Replaces the shared bytes of the plugin by a text. -/
def sendText (guest : Guest σ) (text : String) : Exchange σ Unit :=
  send guest (Utf8.encode text)

/-- One turn of the receiving loop; the answer is the next chunk. -/
def receiveTurn (guest : Guest σ) (total : Nat) (received : Bytes) : Exchange σ Bytes := do
  let sizing ← StagingBuffer.query guest
  let count := min (total - received.length) sizing.capacity.toNat
  guest.callUnit .stageShared [Int32.ofNat received.length, Int32.ofNat count]
  let buffer ← StagingBuffer.query guest
  guest.read buffer.offset (UInt32.ofNat count)

/-- Receives what is missing from `total` bytes, chunk by chunk.  Nothing but the plugin limits the
number of turns: a reading that answers no bytes brings the end no nearer. -/
def receiveChunks (guest : Guest σ) (total : Nat) : Bytes → Exchange σ Bytes :=
  .loop fun received => do
    if received.length < total then
      let chunk ← receiveTurn guest total received
      return .inl (received ++ chunk)
    else
      return .inr received

/-- Receives `length` shared bytes. -/
def receive (guest : Guest σ) (length : UInt32) : Exchange σ Bytes :=
  receiveChunks guest length.toNat []

/-- Receives `length` shared bytes as text. -/
def receiveText (guest : Guest σ) (length : UInt32) : Exchange σ String := do
  let bytes ← receive guest length
  match Utf8.decode bytes with
  | .ok text => return text
  | .error fault => .fail (.invalidUtf8 fault.message)

end FormatterHost.Transport
