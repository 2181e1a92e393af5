import FormatterHost.Guest.Basic

/-!
# Recorded guests

A recorded guest behaves as the guest it is made from, and writes down every operation with its
outcome.
-/

namespace FormatterHost

/-- An operation on a guest and what came of it. -/
inductive Event where
  | call (callee : Export) (args : List Int32) (outcome : Except Failure (Option Int32))
  | read (offset length : UInt32) (outcome : Except Failure Bytes)
  | write (offset : UInt32) (bytes : Bytes) (outcome : Except Failure Unit)

/-- The state of a guest together with the operations on it, the latest first. -/
structure Recorded (σ : Type) where
  guest : σ
  history : List Event

namespace Recorded

variable {σ α : Type}

/-- A guest before its first operation. -/
def start (guest : σ) : Recorded σ :=
  ⟨guest, []⟩

/-- The operations in the order in which they happened. -/
def events (recorded : Recorded σ) : List Event :=
  recorded.history.reverse

/-- The same guest with an empty record. -/
def clear (recorded : Recorded σ) : Recorded σ :=
  ⟨recorded.guest, []⟩

/-- An operation that is written down. -/
def observe (event : Except Failure α → Event) (x : Exchange σ α) : Exchange (Recorded σ) α :=
  fun recorded =>
    let (outcome, guest) := x recorded.guest
    (outcome, ⟨guest, event outcome :: recorded.history⟩)

end Recorded

/-- The guest whose operations are written down. -/
def Guest.recorded {σ : Type} (guest : Guest σ) : Guest (Recorded σ) where
  call callee args := Recorded.observe (.call callee args) (guest.call callee args)
  read offset length := Recorded.observe (.read offset length) (guest.read offset length)
  write offset bytes := Recorded.observe (.write offset bytes) (guest.write offset bytes)

end FormatterHost
