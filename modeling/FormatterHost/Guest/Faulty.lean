import FormatterHost.Guest.Basic

/-!
# Faulty guests

A faulty guest answers some of the operations on its own instead of carrying them out.  Operations
of each kind are counted from one on, and a fault strikes either at one of them or at all.
-/

namespace FormatterHost

/-- The kinds of operations on a guest. -/
inductive Operation where
  | call (callee : Export)
  | read
  | write
deriving Repr, DecidableEq

namespace Operation

/-- The name of a kind of operation. -/
def name : Operation → String
  | call callee => callee.name
  | read => "read"
  | write => "write"

/-- The kind of operation with a given name. -/
def ofName? (name : String) : Option Operation :=
  if name = "read" then some read
  else if name = "write" then some write
  else (Export.ofName? name).map call

end Operation

/-- What happens instead of an operation. -/
inductive Replacement where
  | failure (failure : Failure)
  /-- A call answers `value`, a read answers `bytes`, and a write does nothing. -/
  | answer (value : Option Int32) (bytes : Bytes)
deriving Repr, DecidableEq

/-- A fault in a guest. -/
structure InjectedFault where
  operation : Operation
  /-- The count at which the fault strikes, or none if it always does. -/
  count : Option Nat
  replacement : Replacement
deriving Repr, DecidableEq

/-- The state of a guest, its faults, and the kinds of the operations so far. -/
structure Faulty (σ : Type) where
  guest : σ
  faults : List InjectedFault
  attempts : List Operation

namespace Faulty

variable {σ α : Type}

/-- A guest with faults, before its first operation. -/
def start (guest : σ) (faults : List InjectedFault) : Faulty σ :=
  ⟨guest, faults, []⟩

/-- What happens instead of the next operation of a kind, if anything does. -/
def replacement? (faulty : Faulty σ) (operation : Operation) : Option Replacement :=
  let count := faulty.attempts.count operation + 1
  (faulty.faults.find? fun fault =>
    fault.operation = operation && fault.count.all (· = count)).map (·.replacement)

/-- An operation that may be replaced. -/
def attempt (operation : Operation) (answer : Option Int32 → Bytes → α) (x : Exchange σ α) :
    Exchange (Faulty σ) α :=
  fun faulty =>
    let attempts := operation :: faulty.attempts
    match faulty.replacement? operation with
    | some (.failure failure) => (.error failure, { faulty with attempts })
    | some (.answer value bytes) => (.ok (answer value bytes), { faulty with attempts })
    | none =>
      let (outcome, guest) := x faulty.guest
      (outcome, { faulty with guest, attempts })

end Faulty

/-- The guest with faults. -/
def Guest.faulty {σ : Type} (guest : Guest σ) : Guest (Faulty σ) where
  call callee args :=
    Faulty.attempt (.call callee) (fun value _ => value) (guest.call callee args)
  read offset length := Faulty.attempt .read (fun _ bytes => bytes) (guest.read offset length)
  write offset bytes := Faulty.attempt .write (fun _ _ => ()) (guest.write offset bytes)

end FormatterHost
