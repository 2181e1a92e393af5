/-!
# Decimal digits

Natural numbers are written with the digits `0` to `9`, the most significant first and none to
spare. Reading the digits of a number gives the number back.
-/

namespace FormatterHost.Decimal

/-- Whether a character is one of `0` to `9`. -/
def isDigit (c : Char) : Bool :=
  '0' ≤ c && c ≤ '9'

/-- The digit of a number below ten. -/
def digitChar (n : Nat) : Char :=
  Char.ofNat (48 + n)

/-- The number that a digit stands for. -/
def digitValue (c : Char) : Nat :=
  c.toNat - 48

/-- The digits of a number. -/
def digits (n : Nat) : List Char :=
  if n < 10 then [digitChar n] else digits (n / 10) ++ [digitChar (n % 10)]
termination_by n

/-- The number that a row of digits stands for. -/
def value (cs : List Char) : Nat :=
  cs.foldl (fun n c => n * 10 + digitValue c) 0

/-- The digits of an integer, after a minus sign if it is negative. -/
def signedDigits (n : Int) : List Char :=
  if n < 0 then '-' :: digits n.natAbs else digits n.natAbs

theorem digitValue_digitChar {n : Nat} (h : n < 10) : digitValue (digitChar n) = n := by
  have all : ∀ m, m < 10 → digitValue (digitChar m) = m := by decide
  exact all n h

theorem isDigit_digitChar {n : Nat} (h : n < 10) : isDigit (digitChar n) = true := by
  have all : ∀ m, m < 10 → isDigit (digitChar m) = true := by decide
  exact all n h

/-- Reading undoes writing. -/
theorem value_digits (n : Nat) : value (digits n) = n := by
  rw [digits]
  split
  · rename_i h
    simp [value, digitValue_digitChar h]
  · have ih := value_digits (n / 10)
    simp only [value, List.foldl_append, List.foldl_cons, List.foldl_nil] at ih ⊢
    rw [ih, digitValue_digitChar (Nat.mod_lt _ (by decide))]
    omega
termination_by n

theorem isDigit_of_mem_digits {n : Nat} {c : Char} (h : c ∈ digits n) : isDigit c = true := by
  rw [digits] at h
  split at h
  · rename_i small
    simp only [List.mem_singleton] at h
    exact h ▸ isDigit_digitChar small
  · simp only [List.mem_append, List.mem_singleton] at h
    rcases h with h | h
    · exact isDigit_of_mem_digits h
    · exact h ▸ isDigit_digitChar (Nat.mod_lt _ (by decide))
termination_by n

/-- The longest row of digits at the start of a text, and what follows it. -/
def span (cs : List Char) : List Char × List Char :=
  (cs.takeWhile isDigit, cs.dropWhile isDigit)

end FormatterHost.Decimal
