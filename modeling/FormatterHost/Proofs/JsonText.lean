import FormatterHost.Json.Printer
import FormatterHost.Json.Reader

/-!
# Printed JSON is read back

The compact text of a value, wherever it stands, is read as that value, and nothing behind it is
touched.  Numbers are the one kind of value whose end is seen only in what follows, and the one kind
of which only a part survives: those of 64 bits.
-/

namespace FormatterHost

/-! ## Digits -/

namespace Decimal

/-- What may follow a number: nothing that could belong to it. -/
def Apart (rest : List Char) : Prop :=
  ∀ c cs, rest = c :: cs → isDigit c = false ∧ c ≠ '.' ∧ c ≠ 'e' ∧ c ≠ 'E'

theorem span_append_of_stops {ds rest : List Char} (digital : ∀ d ∈ ds, isDigit d = true)
    (stops : ∀ c cs, rest = c :: cs → isDigit c = false) : span (ds ++ rest) = (ds, rest) := by
  have nothing : rest.takeWhile isDigit = [] ∧ rest.dropWhile isDigit = rest := by
    cases rest with
    | nil => exact ⟨rfl, rfl⟩
    | cons c cs =>
        have notDigit := stops c cs rfl
        exact ⟨by rw [List.takeWhile_cons_of_neg (by simp [notDigit])],
          by rw [List.dropWhile_cons_of_neg (by simp [notDigit])]⟩
  rw [span, List.takeWhile_append_of_pos digital, List.dropWhile_append_of_pos digital, nothing.1,
    nothing.2, List.append_nil]

theorem span_append {ds rest : List Char} (digital : ∀ d ∈ ds, isDigit d = true)
    (apart : Apart rest) : span (ds ++ rest) = (ds, rest) :=
  span_append_of_stops digital fun c cs same => (apart c cs same).1

/-- Only zero is written with a leading zero. -/
theorem digits_cases (n : Nat) :
    (n = 0 ∧ digits n = ['0']) ∨
      ∃ d ds, digits n = d :: ds ∧ d ≠ '0' ∧ isDigit d = true ∧ ∀ c ∈ ds, isDigit c = true := by
  induction n using Nat.strongRecOn with
  | ind n ih =>
      rw [digits]
      by_cases small : n < 10
      · rw [if_pos small]
        have all : ∀ m, m < 10 → m ≠ 0 → digitChar m ≠ '0' := by decide
        by_cases zero : n = 0
        · subst zero
          exact .inl ⟨rfl, rfl⟩
        · exact .inr ⟨_, [], rfl, all n small zero, isDigit_digitChar small, by simp⟩
      · rw [if_neg small]
        rcases ih (n / 10) (by omega) with ⟨zero, -⟩ | ⟨d, ds, written, nonzero, digital, rest⟩
        · omega
        · refine .inr ⟨d, ds ++ [digitChar (n % 10)], by rw [written]; rfl, nonzero, digital, ?_⟩
          intro c mem
          rcases List.mem_append.mp mem with mem | mem
          · exact rest c mem
          · rw [List.mem_singleton.mp mem]
            exact isDigit_digitChar (Nat.mod_lt _ (by decide))

/-- A number has as many digits as its place among the powers of ten says. -/
theorem length_digits_le (k : Nat) {n : Nat} (h : n < Nat.pow 10 (k + 1)) :
    (digits n).length ≤ k + 1 := by
  induction k generalizing n with
  | zero =>
      rw [digits, if_pos (by simpa using h)]
      exact Nat.le_refl 1
  | succ k ih =>
      rw [digits]
      split
      · exact Nat.le_add_left 1 _
      · have less : n / 10 < Nat.pow 10 (k + 1) := (Nat.div_lt_iff_lt_mul (by decide)).mpr h
        rw [List.length_append, List.length_singleton]
        exact Nat.succ_le_succ (ih less)

end Decimal

namespace Json

open Decimal (Apart digits isDigit)

/-! ## Numbers -/

/-- Digits that fit are all added. -/
theorem addInteger_eq (cs : List Char) (significand : Nat)
    (fits : cs.foldl (fun n c => n * 10 + Decimal.digitValue c) significand ≤ maxSignificand) :
    addInteger significand cs =
      (cs.foldl (fun n c => n * 10 + Decimal.digitValue c) significand, 0) := by
  induction cs generalizing significand with
  | nil => rfl
  | cons c cs ih =>
      have grows : ∀ (cs : List Char) (n : Nat),
          n ≤ cs.foldl (fun n c => n * 10 + Decimal.digitValue c) n := by
        intro cs
        induction cs with
        | nil => exact fun n => Nat.le_refl n
        | cons c cs ih =>
            intro n
            exact Nat.le_trans (by omega) (ih (n * 10 + Decimal.digitValue c))
      rw [List.foldl_cons] at fits ⊢
      rw [addInteger, if_pos (Nat.le_trans (grows cs _) fits)]
      exact ih _ fits

theorem readExponent_of_apart {integer fraction rest : List Char} (apart : Apart rest) :
    readExponent integer fraction rest = .ok (⟨integer, fraction, none⟩, rest) := by
  cases rest with
  | nil => rfl
  | cons c cs =>
      obtain ⟨-, -, small, large⟩ := apart c cs rfl
      unfold readExponent
      exact if_neg (by simp [small, large])

/-- A numeral without a point and an exponent. -/
theorem readFraction_of_apart {integer rest : List Char} (apart : Apart rest) :
    readFraction integer rest = .ok (⟨integer, [], none⟩, rest) := by
  cases rest with
  | nil => rfl
  | cons c cs =>
      rw [readFraction]
      · exact readExponent_of_apart apart
      · intro cs' same
        exact (apart c cs rfl).2.1 (List.cons.inj same).1

theorem readNumeral_digits (n : Nat) {rest : List Char} (apart : Apart rest) :
    readNumeral (digits n ++ rest) = .ok (⟨digits n, [], none⟩, rest) := by
  rcases Decimal.digits_cases n with ⟨-, written⟩ | ⟨d, ds, written, nonzero, digital, more⟩
  · rw [written, List.singleton_append]
    unfold readNumeral
    cases rest with
    | nil => exact readFraction_of_apart apart
    | cons c cs =>
        simp only [(apart c cs rfl).1]
        exact readFraction_of_apart apart
  · rw [written, List.cons_append]
    unfold readNumeral
    simp only [if_neg nonzero, if_pos digital, Decimal.span_append more apart]
    exact readFraction_of_apart apart

/-- Natural numbers of 64 bits are read exactly. -/
theorem readNumber_false (n : Nat) {rest : List Char} (fits : n ≤ maxSignificand)
    (apart : Apart rest) :
    readNumber false (digits n ++ rest) = (.number (.integer n), some rest) := by
  have valued := Decimal.value_digits n
  have added := addInteger_eq (digits n) 0 (by rw [← Decimal.value, valued]; exact fits)
  rw [← Decimal.value, valued] at added
  simp [readNumber, readNumeral_digits n apart, Numeral.number?, added]

/-- So are negative numbers of 64 bits. -/
theorem readNumber_true (n : Nat) {rest : List Char} (pos : 0 < n) (fits : n ≤ Width.count 63)
    (apart : Apart rest) :
    readNumber true (digits n ++ rest) = (.number (.integer (-n)), some rest) := by
  have small : n ≤ maxSignificand := Nat.le_trans fits (by decide)
  have valued := Decimal.value_digits n
  have added := addInteger_eq (digits n) 0 (by rw [← Decimal.value, valued]; exact small)
  rw [← Decimal.value, valued] at added
  simp [readNumber, readNumeral_digits n apart, Numeral.number?, added, pos, fits]

/-! ## Strings -/

theorem decode_of_escape {cs cs' tail text : List Char} {c : Char}
    (escaped : escape cs = .ok (c, cs')) (decoded : decode cs' = .ok (text, tail)) :
    decode ('\\' :: cs) = .ok (c :: text, tail) := by
  rw [decode, if_neg (by decide), if_pos rfl]
  split
  · rename_i fault failed
    rw [escaped] at failed
    cases failed
  · rename_i meant rest found
    rw [escaped] at found
    cases found
    rw [decoded]

/-- A control character is written with the two last of four hexadecimal digits. -/
theorem escape_control {c : Char} (control : c.toNat < 32) (cs : List Char) :
    escape ('u' :: '0' :: '0' :: Bytes.hexDigit (c.toNat / 16) ::
      Bytes.hexDigit (c.toNat % 16) :: cs) = .ok (c, cs) := by
  have digits : ∀ n, n < 32 → Bytes.hexValue? (Bytes.hexDigit (n / 16)) = some (n / 16) ∧
      Bytes.hexValue? (Bytes.hexDigit (n % 16)) = some (n % 16) := by decide
  have zero : Bytes.hexValue? '0' = some 0 := by decide
  have units : ∀ n, n < 32 → isTrailing n = false ∧ isLeading n = false := by decide
  have unit : ((0 * 16 + 0) * 16 + c.toNat / 16) * 16 + c.toNat % 16 = c.toNat := by omega
  have read : hexEscape ('0' :: '0' :: Bytes.hexDigit (c.toNat / 16) ::
      Bytes.hexDigit (c.toNat % 16) :: cs) = .ok (c.toNat, cs) := by
    simp only [hexEscape, zero, (digits _ control).1, (digits _ control).2, unit]
  simp only [escape, if_true, read, (units _ control).1, (units _ control).2]
  simp

/-- The three forms of a character inside quotation marks. -/
theorem escapeChar_cases (c : Char) :
    (∃ letter, escapeChar c = ['\\', letter] ∧ letter ≠ 'u' ∧ shortEscape? letter = some c) ∨
      (c.toNat < 32 ∧ escapeChar c = ['\\', 'u', '0', '0', Bytes.hexDigit (c.toNat / 16),
        Bytes.hexDigit (c.toNat % 16)]) ∨
      (escapeChar c = [c] ∧ c ≠ '"' ∧ c ≠ '\\' ∧ ¬ c.toNat < 32) := by
  by_cases short : c ∈ ['"', '\\', '\n', '\r', '\t', '\x08', '\x0c']
  · left
    simp only [List.mem_cons, List.not_mem_nil, or_false] at short
    rcases short with rfl | rfl | rfl | rfl | rfl | rfl | rfl
    all_goals exact ⟨_, rfl, by decide, by decide⟩
  · right
    simp only [List.mem_cons, List.not_mem_nil, or_false, not_or] at short
    obtain ⟨quotes, backslash, newline, carriage, tab, back, feed⟩ := short
    unfold escapeChar
    rw [if_neg quotes, if_neg backslash, if_neg newline, if_neg carriage, if_neg tab, if_neg back,
      if_neg feed]
    by_cases control : c.toNat < 32
    · exact .inl ⟨control, if_pos control⟩
    · exact .inr ⟨if_neg control, quotes, backslash, control⟩

/-- Each character is read back from its form inside quotation marks. -/
theorem decode_escapeChar (c : Char) {cs tail text : List Char}
    (decoded : decode cs = .ok (text, tail)) :
    decode (escapeChar c ++ cs) = .ok (c :: text, tail) := by
  rcases escapeChar_cases c with ⟨letter, form, other, short⟩ | ⟨control, form⟩ |
    ⟨form, quotes, backslash, plain⟩
  · have escaped : escape (letter :: cs) = .ok (c, cs) := by
      simp only [escape, if_neg other, short]
    rw [form]
    exact decode_of_escape escaped decoded
  · rw [form]
    exact decode_of_escape (escape_control control cs) decoded
  · rw [form, List.singleton_append, decode, if_neg quotes, if_neg backslash, if_neg plain, decoded]

theorem decode_flatMap (text rest : List Char) :
    decode (text.flatMap escapeChar ++ '"' :: rest) = .ok (text, rest) := by
  induction text with
  | nil => rw [List.flatMap_nil, List.nil_append, decode, if_pos rfl]
  | cons c cs ih =>
      rw [List.flatMap_cons, List.append_assoc]
      exact decode_escapeChar c ih

theorem quote_append (text rest : List Char) :
    quote text ++ rest = '"' :: (text.flatMap escapeChar ++ '"' :: rest) := by
  simp [quote]

/-- A quoted text is read back. -/
theorem readString_quote (text : String) (rest : List Char) :
    readString (text.toList.flatMap escapeChar ++ '"' :: rest) = (.ok text, some rest) := by
  rw [readString, decode_flatMap]
  simp

/-! ## Values -/

mutual

/-- The reading of a value. -/
def reading : Json → Reading
  | .null => .null
  | .bool value => .bool value
  | .integer value => .number (.integer value)
  | .string value => .string value
  | .array items => .array (readingOfItems items)
  | .object members => .object (readingOfMembers members)

/-- The reading of the items of an array. -/
def readingOfItems : List Json → Items
  | [] => .closed
  | item :: items => .item (reading item) (readingOfItems items)

/-- The reading of the members of an object. -/
def readingOfMembers : List (String × Json) → Members
  | [] => .closed
  | (name, value) :: members => .member (.ok name) (reading value) (readingOfMembers members)

end

mutual

/-- All integers in a value have 64 bits. -/
def Exact : Json → Prop
  | .integer value => -(Width.count 63 : Int) ≤ value ∧ value ≤ maxSignificand
  | .array items => ExactItems items
  | .object members => ExactMembers members
  | _ => True

def ExactItems : List Json → Prop
  | [] => True
  | item :: items => Exact item ∧ ExactItems items

def ExactMembers : List (String × Json) → Prop
  | [] => True
  | (_, value) :: members => Exact value ∧ ExactMembers members

end

theorem isBlank_of_isDigit {c : Char} (digital : isDigit c = true) : isBlank c = false := by
  rw [Bool.eq_false_iff]
  intro blank
  simp only [isBlank, Bool.or_eq_true, beq_iff_eq] at blank
  rcases blank with ((rfl | rfl) | rfl) | rfl
  all_goals exact absurd digital (by decide)

/-- A value begins with a character that is neither blank nor a closing bracket. -/
theorem print_head (value : Json) :
    ∃ c cs, print value = c :: cs ∧ isBlank c = false ∧ c ≠ ']' := by
  have digit : ∀ n, ∃ c cs, digits n = c :: cs ∧ isBlank c = false ∧ c ≠ ']' := by
    intro n
    rcases Decimal.digits_cases n with ⟨-, written⟩ | ⟨d, ds, written, -, digital, -⟩
    · exact ⟨'0', [], written, by decide, by decide⟩
    · refine ⟨d, ds, written, isBlank_of_isDigit digital, ?_⟩
      rintro rfl
      exact absurd digital (by decide)
  cases value with
  | null => exact ⟨_, _, rfl, by decide, by decide⟩
  | bool value => cases value <;> exact ⟨_, _, rfl, by decide, by decide⟩
  | integer value =>
      rw [print, Decimal.signedDigits]
      split
      · exact ⟨'-', _, rfl, by decide, by decide⟩
      · exact digit _
  | string value => exact ⟨_, _, rfl, by decide, by decide⟩
  | array items => cases items <;> exact ⟨_, _, rfl, by decide, by decide⟩
  | object members => cases members <;> exact ⟨_, _, rfl, by decide, by decide⟩

theorem skipBlanks_cons {c : Char} (visible : isBlank c = false) (cs : List Char) :
    skipBlanks (c :: cs) = c :: cs := by
  rw [skipBlanks, List.dropWhile_cons_of_neg (by simp [visible])]

theorem apart_nil : Apart [] := by
  intro c cs impossible
  cases impossible

/-- What is due behind an integer stands behind every comma and every closing bracket. -/
theorem apart_cons {c : Char} (cs : List Char) (separates : c = ',' ∨ c = ']' ∨ c = '\x7d') :
    Apart (c :: cs) := by
  intro d ds same
  obtain ⟨rfl, -⟩ := List.cons.inj same
  rcases separates with rfl | rfl | rfl <;> exact ⟨by decide, by decide, by decide, by decide⟩

theorem printItems_apart (items : List Json) (rest : List Char) :
    Apart (printItems items ++ rest) := by
  cases items with
  | nil => exact apart_cons _ (.inr (.inl rfl))
  | cons item items => exact apart_cons _ (.inl rfl)

theorem printMembers_apart (members : List (String × Json)) (rest : List Char) :
    Apart (printMembers members ++ rest) := by
  cases members with
  | nil => exact apart_cons _ (.inr (.inr rfl))
  | cons member members => exact apart_cons _ (.inl rfl)

theorem readValue_of_isDigit {c : Char} (digital : isDigit c = true) (cs : List Char)
    (fuel : Nat) : readValue (fuel + 1) (c :: cs) = readNumber false (c :: cs) := by
  have other : ∀ d, isDigit d = false → c ≠ d := by
    rintro d notDigital rfl
    rw [digital] at notDigital
    cases notDigital
  rw [readValue, skipBlanks_cons (isBlank_of_isDigit digital)]
  simp only [other '"' (by decide), other '[' (by decide), other '\x7b' (by decide),
    other 'n' (by decide), other 't' (by decide), other 'f' (by decide), other '-' (by decide),
    digital, if_false, if_true]

theorem readValue_minus (cs : List Char) (fuel : Nat) :
    readValue (fuel + 1) ('-' :: cs) = readNumber true cs := by
  rw [readValue, skipBlanks_cons (by decide)]
  rfl

theorem readValue_integer (value : Int) (exact : Exact (.integer value)) {rest : List Char}
    (apart : Apart rest) (fuel : Nat) :
    readValue (fuel + 1) (print (.integer value) ++ rest) =
      (.number (.integer value), some rest) := by
  obtain ⟨lower, upper⟩ := exact
  rw [print, Decimal.signedDigits]
  by_cases negative : value < 0
  · have same : -(value.natAbs : Int) = value := by omega
    rw [if_pos negative, List.cons_append, readValue_minus,
      readNumber_true _ (by omega) (by omega) apart, same]
  · have same : (value.natAbs : Int) = value := by omega
    have read := readNumber_false value.natAbs (by omega) apart
    rw [same] at read
    rw [if_neg negative]
    rcases Decimal.digits_cases value.natAbs with ⟨-, written⟩ | ⟨d, ds, written, -, digital, -⟩
    · rw [written] at read ⊢
      exact (readValue_of_isDigit (by decide) _ fuel).trans read
    · rw [written] at read ⊢
      exact (readValue_of_isDigit digital _ fuel).trans read

/-- A member behind its quotation mark, whose value and whose followers are read as known. -/
theorem readMember_eq {fuel : Nat} {name : String} {cs tail rest : List Char} {value : Reading}
    {more : Members} (read : readValue fuel cs = (value, some tail))
    (readMore : readMoreMembers (fuel + 1) tail = (more, some rest)) :
    readMember (fuel + 2) (quote name.toList ++ ':' :: cs) =
      (.member (.ok name) value more, some rest) := by
  have colon : readMemberValue (fuel + 1) (':' :: cs) = readValue fuel cs := by
    rw [readMemberValue, skipBlanks_cons (by decide)]
    rfl
  rw [quote_append, readMember, skipBlanks_cons (by decide)]
  simp only [if_true, readString_quote, colon, read, readMore]

/-- A printed member and all that follow it, where its value and its followers are read back. -/
theorem readMember_of_print (name : String) {fuel : Nat} {value : Json}
    {members : List (String × Json)} {rest : List Char}
    (read : readValue fuel (print value ++ (printMembers members ++ rest)) =
      (reading value, some (printMembers members ++ rest)))
    (readMore : readMoreMembers (fuel + 1) (printMembers members ++ rest) =
      (readingOfMembers members, some rest)) :
    readMember (fuel + 2) (printMember (name, value) ++ (printMembers members ++ rest)) =
      (readingOfMembers ((name, value) :: members), some rest) := by
  rw [printMember, List.append_assoc, List.cons_append]
  exact readMember_eq read readMore

theorem printMember_length (name : String) (value : Json) :
    (print value).length + 3 ≤ (printMember (name, value)).length := by
  simp only [printMember, quote, List.length_append, List.length_cons, List.length_nil]
  omega

theorem readMembers_print (member : String × Json) (cs : List Char) (fuel : Nat) :
    readMembers (fuel + 1) (printMember member ++ cs) =
      readMember fuel (printMember member ++ cs) := by
  obtain ⟨name, value⟩ := member
  rw [printMember, List.append_assoc, quote_append, readMembers, skipBlanks_cons (by decide)]
  rfl

theorem readMoreMembers_comma (cs : List Char) (fuel : Nat) :
    readMoreMembers (fuel + 1) (',' :: cs) = readMember fuel cs := by
  rw [readMoreMembers, skipBlanks_cons (by decide)]
  rfl

theorem readValue_brace (cs : List Char) (fuel : Nat) :
    readValue (fuel + 1) ('\x7b' :: cs) =
      (.object (readMembers fuel cs).1, (readMembers fuel cs).2) := by
  rw [readValue, skipBlanks_cons (by decide)]
  rfl

/-- A printed item and all that follow it, where both are read back. -/
theorem readItems_print {fuel : Nat} {item : Json} {tail rest : List Char} {more : Items}
    (read : readValue fuel (print item ++ tail) = (reading item, some tail))
    (readMore : readMoreItems fuel tail = (more, some rest)) :
    readItems (fuel + 1) (print item ++ tail) = (.item (reading item) more, some rest) := by
  obtain ⟨c, cs, begins, visible, other⟩ := print_head item
  rw [begins, List.cons_append] at read ⊢
  rw [readItems, skipBlanks_cons visible]
  simp only [other, if_false, read, readMore]

theorem readMoreItems_comma {fuel : Nat} {item : Json} {tail rest : List Char} {more : Items}
    (read : readValue fuel (print item ++ tail) = (reading item, some tail))
    (readMore : readMoreItems fuel tail = (more, some rest)) :
    readMoreItems (fuel + 1) (',' :: (print item ++ tail)) =
      (.item (reading item) more, some rest) := by
  have comma : ¬ (',' = ']') := by decide
  rw [readMoreItems, skipBlanks_cons (by decide)]
  simp only [comma, if_false, if_true, read, readMore]

theorem readValue_bracket (cs : List Char) (fuel : Nat) :
    readValue (fuel + 1) ('[' :: cs) = (.array (readItems fuel cs).1, (readItems fuel cs).2) := by
  rw [readValue, skipBlanks_cons (by decide)]
  rfl

-- The four readers call each other with less fuel every time, so the induction is on the fuel; the
-- bound keeps it above what is left of the text.
mutual

/-- A value is read back, whatever follows it. -/
theorem readValue_print (value : Json) (exact : Exact value) {rest : List Char}
    (apart : Apart rest) {fuel : Nat} (enough : 4 * (print value ++ rest).length < fuel) :
    readValue fuel (print value ++ rest) = (reading value, some rest) := by
  obtain ⟨fuel, rfl⟩ : ∃ n, fuel = n + 1 := ⟨fuel - 1, by omega⟩
  cases value with
  | null => rfl
  | bool value => cases value <;> rfl
  | integer value => exact readValue_integer value exact apart fuel
  | string value =>
      rw [print, quote_append, readValue, skipBlanks_cons (by decide)]
      simp only [if_true, readText, readString_quote]
      rfl
  | array items =>
      cases items with
      | nil =>
          simp only [print, List.length_append, List.length_cons] at enough
          obtain ⟨fuel, rfl⟩ : ∃ n, fuel = n + 1 := ⟨fuel - 1, by omega⟩
          rfl
      | cons item items =>
          obtain ⟨exactItem, exactItems⟩ := exact
          rw [print, List.cons_append, List.cons_append, List.append_assoc] at enough ⊢
          rw [List.length_cons] at enough
          obtain ⟨fuel, rfl⟩ : ∃ n, fuel = n + 1 := ⟨fuel - 1, by omega⟩
          have behind : (print item ++ (printItems items ++ rest)).length =
              (print item).length + (printItems items ++ rest).length := List.length_append
          have read := readValue_print item exactItem (printItems_apart items rest)
            (show 4 * (print item ++ (printItems items ++ rest)).length < fuel by omega)
          have readMore := readMoreItems_print items exactItems rest
            (show 4 * (printItems items ++ rest).length < fuel by omega)
          rw [readValue_bracket, readItems_print read readMore]
          rfl
  | object members =>
      cases members with
      | nil =>
          simp only [print, List.length_append, List.length_cons] at enough
          obtain ⟨fuel, rfl⟩ : ∃ n, fuel = n + 1 := ⟨fuel - 1, by omega⟩
          rfl
      | cons member members =>
          rw [print, List.cons_append, List.cons_append, List.append_assoc] at enough ⊢
          rw [List.length_cons] at enough
          obtain ⟨fuel, rfl⟩ : ∃ n, fuel = n + 1 := ⟨fuel - 1, by omega⟩
          have read := readMember_print member members exact rest
            (show 4 * (printMember member ++ (printMembers members ++ rest)).length < fuel by omega)
          rw [readValue_brace, readMembers_print, read]
          rfl
termination_by fuel

theorem readMoreItems_print (items : List Json) (exact : ExactItems items) (rest : List Char)
    {fuel : Nat} (enough : 4 * (printItems items ++ rest).length < fuel) :
    readMoreItems fuel (printItems items ++ rest) = (readingOfItems items, some rest) := by
  obtain ⟨fuel, rfl⟩ : ∃ n, fuel = n + 1 := ⟨fuel - 1, by omega⟩
  cases items with
  | nil => rfl
  | cons item items =>
      obtain ⟨exactItem, exactItems⟩ := exact
      rw [printItems, List.cons_append, List.cons_append, List.append_assoc] at enough ⊢
      rw [List.length_cons] at enough
      have behind : (print item ++ (printItems items ++ rest)).length =
          (print item).length + (printItems items ++ rest).length := List.length_append
      have read := readValue_print item exactItem (printItems_apart items rest)
        (show 4 * (print item ++ (printItems items ++ rest)).length < fuel by omega)
      have readMore := readMoreItems_print items exactItems rest
        (show 4 * (printItems items ++ rest).length < fuel by omega)
      exact readMoreItems_comma read readMore
termination_by fuel

theorem readMember_print (member : String × Json) (members : List (String × Json))
    (exact : ExactMembers (member :: members)) (rest : List Char) {fuel : Nat}
    (enough : 4 * (printMember member ++ (printMembers members ++ rest)).length < fuel) :
    readMember fuel (printMember member ++ (printMembers members ++ rest)) =
      (readingOfMembers (member :: members), some rest) := by
  obtain ⟨name, value⟩ := member
  obtain ⟨exactValue, exactMembers⟩ := exact
  have longer := printMember_length name value
  rw [List.length_append] at enough
  obtain ⟨fuel, rfl⟩ : ∃ n, fuel = n + 2 := ⟨fuel - 2, by omega⟩
  have behind : (print value ++ (printMembers members ++ rest)).length =
      (print value).length + (printMembers members ++ rest).length := List.length_append
  have read := readValue_print value exactValue (printMembers_apart members rest)
    (show 4 * (print value ++ (printMembers members ++ rest)).length < fuel by omega)
  have readMore := readMoreMembers_print members exactMembers rest
    (show 4 * (printMembers members ++ rest).length < fuel + 1 by omega)
  exact readMember_of_print name read readMore
termination_by fuel

theorem readMoreMembers_print (members : List (String × Json)) (exact : ExactMembers members)
    (rest : List Char) {fuel : Nat} (enough : 4 * (printMembers members ++ rest).length < fuel) :
    readMoreMembers fuel (printMembers members ++ rest) =
      (readingOfMembers members, some rest) := by
  obtain ⟨fuel, rfl⟩ : ∃ n, fuel = n + 1 := ⟨fuel - 1, by omega⟩
  cases members with
  | nil => rfl
  | cons member members =>
      rw [printMembers, List.cons_append, List.cons_append, List.append_assoc] at enough ⊢
      rw [List.length_cons] at enough
      rw [readMoreMembers_comma]
      exact readMember_print member members exact rest (by omega)
termination_by fuel

end

/-- A printed value is read back as a whole. -/
theorem ofChars_print (value : Json) (exact : Exact value) :
    Reading.ofChars (print value) = (reading value, some []) := by
  have enough : 4 * (print value ++ []).length < readingFuel (print value) := by
    rw [List.append_nil, readingFuel]
    omega
  have read := readValue_print value exact apart_nil enough
  rw [List.append_nil] at read
  exact read

/-! ## Lengths -/

theorem length_quote_le (text : List Char) : (quote text).length ≤ 6 * text.length + 2 := by
  have escaped : (text.flatMap escapeChar).length ≤ 6 * text.length := by
    induction text with
    | nil => exact Nat.le_refl 0
    | cons c cs ih =>
        have one : (escapeChar c).length ≤ 6 := by
          rcases escapeChar_cases c with ⟨_, form, -⟩ | ⟨-, form⟩ | ⟨form, -⟩
          all_goals
            rw [form]
            simp
        rw [List.flatMap_cons, List.length_append, List.length_cons]
        omega
  simp only [quote, List.length_append, List.length_cons, List.length_nil]
  omega

theorem length_printMember_le (name : String) (value : Json) {bound : Nat}
    (le : (print value).length ≤ bound) :
    (printMember (name, value)).length ≤ 6 * name.toList.length + 3 + bound := by
  have quoted := length_quote_le name.toList
  simp only [printMember, List.length_append, List.length_cons]
  omega

theorem length_print_natural_le (k : Nat) {n : Nat} (h : n < Nat.pow 10 (k + 1)) :
    (print (natural n)).length ≤ k + 1 := by
  have nonneg : ¬ ((n : Int) < 0) := by omega
  rw [natural, print, Decimal.signedDigits, if_neg nonneg]
  exact Decimal.length_digits_le k h

end Json

end FormatterHost
