import FormatterHost.Bytes.Basic
import FormatterHost.Failure
import FormatterHost.Guest.Export

/-!
# Guests and exchanges

A guest is the plugin as its host sees it: functions to call, and a memory to copy from and
to.  Its state is its own.  An exchange is a conversation with a guest; it stops at the first
failure, and the guest keeps whatever state it has reached by then.
-/

namespace FormatterHost

/-- A conversation with a guest in a state of type `σ`: an outcome, and the state left behind. -/
def Exchange (σ α : Type) : Type :=
  σ → Except Failure α × σ

namespace Exchange

variable {σ τ α β : Type}

/-- The conversation that says nothing and answers `value`. -/
protected def pure (value : α) : Exchange σ α :=
  fun s => (.ok value, s)

/-- One conversation, and after its success another. -/
protected def bind (x : Exchange σ α) (f : α → Exchange σ β) : Exchange σ β :=
  fun s =>
    match x s with
    | (.ok value, s') => f value s'
    | (.error failure, s') => (.error failure, s')

instance : Monad (Exchange σ) where
  pure := Exchange.pure
  bind := Exchange.bind

/-- The conversation that fails at once. -/
def fail (failure : Failure) : Exchange σ α :=
  fun s => (.error failure, s)

/-- A conversation whose outcome is already known. -/
def ofExcept (outcome : Except Failure α) : Exchange σ α :=
  fun s => (outcome, s)

/-- The same conversation with its failure reworded. -/
def mapFailure (f : Failure → Failure) (x : Exchange σ α) : Exchange σ α :=
  fun s =>
    match x s with
    | (.ok value, s') => (.ok value, s')
    | (.error failure, s') => (.error (f failure), s')

/-- A conversation with one part of a larger state. -/
def onPart (get : τ → σ) (set : τ → σ → τ) (x : Exchange σ α) : Exchange τ α :=
  fun t =>
    let (outcome, s) := x (get t)
    (outcome, set t s)

/-- One turn of a loop, by where it starts: it answers where the next one starts, or the result of
the loop. -/
abbrev Turn (σ β α : Type) : Type :=
  β → Exchange σ (β ⊕ α)

/-- What comes of turns that are taken until one of them answers a result; nothing if no turn is the
last one. -/
def Turn.loop? (turn : Turn σ β α) (start : β) (s : σ) : Option (Except Failure α × σ) :=
  match turn start s with
  | (.ok (.inl next), s') => turn |>.loop? next s'
  | (.ok (.inr value), s') => some (.ok value, s')
  | (.error failure, s') => some (.error failure, s')
partial_fixpoint

/-- What is said of a loop without a last turn.  A host that runs one does not come back. -/
def endless : Failure :=
  .internal "the conversation does not end"

/-- Takes turns until one of them answers a result. -/
def loop (turn : Turn σ β α) (start : β) : Exchange σ α :=
  fun s => (turn.loop? start s).getD (.error endless, s)

@[simp] theorem pure_apply (value : α) (s : σ) :
    (pure value : Exchange σ α) s = (.ok value, s) := rfl

@[simp] theorem fail_apply (failure : Failure) (s : σ) :
    (fail failure : Exchange σ α) s = (.error failure, s) := rfl

@[simp] theorem ofExcept_apply (outcome : Except Failure α) (s : σ) :
    (ofExcept outcome : Exchange σ α) s = (outcome, s) := rfl

/-- A conversation goes on from where its first part succeeded. -/
theorem bind_of_ok {x : Exchange σ α} {f : α → Exchange σ β} {s s' : σ} {value : α}
    (h : x s = (.ok value, s')) : (x >>= f) s = f value s' := by
  simp [Bind.bind, Exchange.bind, h]

/-- A conversation ends where its first part failed. -/
theorem bind_of_error {x : Exchange σ α} {f : α → Exchange σ β} {s s' : σ} {failure : Failure}
    (h : x s = (.error failure, s')) : (x >>= f) s = (.error failure, s') := by
  simp [Bind.bind, Exchange.bind, h]

instance : LawfulMonad (Exchange σ) :=
  LawfulMonad.mk' (Exchange σ)
    (by
      intro α x
      funext s
      simp only [Functor.map, Exchange.bind]
      split <;> rename_i h <;> simp [h, Exchange.pure])
    (by intros; rfl)
    (by
      intro α β γ x f g
      funext s
      simp only [Bind.bind, Exchange.bind]
      split <;> rename_i h <;> split at h <;> simp_all)

end Exchange

/-- What a host can do with a plugin whose state has type `σ`. -/
structure Guest (σ : Type) where
  /-- Calls an exported function; functions without a result answer `none`. -/
  call : Export → List Int32 → Exchange σ (Option Int32)
  /-- Copies `length` bytes of linear memory from `offset` on. -/
  read : (offset length : UInt32) → Exchange σ Bytes
  /-- Copies bytes into linear memory from `offset` on. -/
  write : (offset : UInt32) → Bytes → Exchange σ Unit

namespace Guest

variable {σ : Type}

/-- Calls an export for its effect. -/
def callUnit (guest : Guest σ) (callee : Export) (args : List Int32) : Exchange σ Unit := do
  let _ ← guest.call callee args
  return ()

/-- Calls an export for its result. -/
def callInt (guest : Guest σ) (callee : Export) (args : List Int32) : Exchange σ Int32 := do
  match ← guest.call callee args with
  | some value => return value
  | none => .fail (.signatureMismatch callee.name callee.signature)

end Guest

end FormatterHost
