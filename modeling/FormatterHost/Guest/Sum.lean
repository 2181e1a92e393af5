import FormatterHost.Guest.Basic

/-!
# Guests of one kind or another

Where plugins of two kinds are served alike, the sum of both guests acts on whichever is at hand.
-/

namespace FormatterHost

/-- A conversation with whichever plugin is at hand. -/
def Exchange.sum {σ τ α : Type} (x : Exchange σ α) (y : Exchange τ α) : Exchange (σ ⊕ τ) α
  | .inl s =>
    let (outcome, s) := x s
    (outcome, .inl s)
  | .inr t =>
    let (outcome, t) := y t
    (outcome, .inr t)

/-- The guest that is of one kind or the other. -/
def Guest.sum {σ τ : Type} (left : Guest σ) (right : Guest τ) : Guest (σ ⊕ τ) where
  call callee args := (left.call callee args).sum (right.call callee args)
  read offset length := (left.read offset length).sum (right.read offset length)
  write offset bytes := (left.write offset bytes).sum (right.write offset bytes)

end FormatterHost
