import FormatterHost.Proofs.JsonText

/-!
# Strings and numbers in JSON texts

A string is written in pieces, a number in digits.  The reader finds the end of either, and knows
what it stands for; and whatever it takes for a string or for a number is one.
-/

namespace FormatterHost.Json

open Decimal (Apart isDigit)

/-! ## Strings -/

/-- The code unit that four hexadecimal digits stand for. -/
def unit? (a b c d : Char) : Option Nat :=
  match Bytes.hexValue? a, Bytes.hexValue? b, Bytes.hexValue? c, Bytes.hexValue? d with
  | some a, some b, some c, some d => some (((a * 16 + b) * 16 + c) * 16 + d)
  | _, _, _, _ => none

/-- What a string is made of between its quotation marks: characters that stand for themselves,
escapes by a letter, and escaped code units. -/
inductive Piece where
  | plain (c : Char) (itself : c ≠ '"' ∧ c ≠ '\\' ∧ ¬ c.toNat < 32)
  | short (letter meant : Char) (known : shortEscape? letter = some meant)
  | unit (a b c d : Char) (value : Nat) (known : unit? a b c d = some value)

/-- A piece as it is written. -/
def Piece.chars : Piece → List Char
  | plain c _ => [c]
  | short letter _ _ => ['\\', letter]
  | unit a b c d _ _ => ['\\', 'u', a, b, c, d]

section Front

/-! The first piece of a string stands at its front. -/

variable (pieces : List Piece) (rest : List Char)

theorem plain_front (c : Char) (itself : c ≠ '"' ∧ c ≠ '\\' ∧ ¬ c.toNat < 32) :
    (.plain c itself :: pieces).flatMap Piece.chars ++ rest =
      c :: (pieces.flatMap Piece.chars ++ rest) := rfl

theorem short_front {letter meant : Char} (known : shortEscape? letter = some meant) :
    (.short letter meant known :: pieces).flatMap Piece.chars ++ rest =
      '\\' :: letter :: (pieces.flatMap Piece.chars ++ rest) := rfl

theorem unit_front {a b c d : Char} {value : Nat} (known : unit? a b c d = some value) :
    (.unit a b c d value known :: pieces).flatMap Piece.chars ++ rest =
      '\\' :: 'u' :: a :: b :: c :: d :: (pieces.flatMap Piece.chars ++ rest) := rfl

end Front

/-- The character that a pair of code units stands for. -/
def paired (leading trailing : Nat) : Char :=
  Char.ofNat (0x10000 + (leading - 0xD800) * 0x400 + (trailing - 0xDC00))

/-- The text that pieces spell; there is none where half of a pair stands alone. -/
def spelled? : List Piece → Option (List Char)
  | [] => some []
  | .plain c _ :: pieces => (spelled? pieces).map (c :: ·)
  | .short _ meant _ :: pieces => (spelled? pieces).map (meant :: ·)
  | .unit _ _ _ _ value _ :: pieces =>
    if isTrailing value then none
    else if isLeading value then
      match pieces with
      | .unit _ _ _ _ second _ :: pieces =>
        if isTrailing second then (spelled? pieces).map (paired value second :: ·) else none
      | _ => none
    else (spelled? pieces).map (Char.ofNat value :: ·)

/-- The pieces between quotation marks. -/
def quoted (pieces : List Piece) : List Char :=
  '"' :: (pieces.flatMap Piece.chars ++ ['"'])

/-- What a reader makes of pieces: their text, or a defect that matters to those only who ask for
the text. -/
def textOf (pieces : List Piece) : Except Defect String :=
  match spelled? pieces with
  | some text => .ok (String.ofList text)
  | none => .error ⟨.malformed, none⟩

theorem hexEscape_of_unit? {a b c d : Char} {value : Nat} (known : unit? a b c d = some value)
    (rest : List Char) : hexEscape (a :: b :: c :: d :: rest) = .ok (value, rest) := by
  unfold unit? at known
  split at known
  · rename_i ha hb hc hd
    cases known
    simp only [hexEscape, ha, hb, hc, hd]
  · cases known

/-- Behind a backslash the text goes on with what the escape stands for. -/
theorem decode_backslash (cs : List Char) :
    decode ('\\' :: cs) =
      match escape cs with
      | .error fault => .error fault
      | .ok (meant, cs) =>
        match decode cs with
        | .error fault => .error fault
        | .ok (text, tail) => .ok (meant :: text, tail) := by
  rw [decode, if_neg (by decide), if_pos rfl]
  split <;> rename_i found
  · rw [found]
  · dsimp only
    generalize escape cs = outcome at found ⊢
    subst found
    rfl

theorem ne_unit_of_known {letter meant : Char} (known : shortEscape? letter = some meant) :
    letter ≠ 'u' := by
  rintro rfl
  cases known

/-- The outcome of decoding a string that spells a text, or none. -/
def decoded (text? : Option (List Char)) (rest : List Char) :
    Except Fault (List Char × List Char) :=
  match text? with
  | some text => .ok (text, rest)
  | none => .error .malformed

/-- An escaped code unit at the head of a string. -/
theorem decode_unit {a b c d : Char} {value : Nat} (known : unit? a b c d = some value)
    (pieces : List Piece) (rest : List Char) :
    decode ((.unit a b c d value known :: pieces).flatMap Piece.chars ++ '"' :: rest) =
      match
        (if isTrailing value then .error .malformed
        else if isLeading value then
          pairedEscape value (pieces.flatMap Piece.chars ++ '"' :: rest)
        else .ok (Char.ofNat value, pieces.flatMap Piece.chars ++ '"' :: rest) :
          Except Fault (Char × List Char)) with
      | .error fault => .error fault
      | .ok (meant, cs) =>
        match decode cs with
        | .error fault => .error fault
        | .ok (text, tail) => .ok (meant :: text, tail) := by
  rw [unit_front, decode_backslash, escape, if_pos rfl, hexEscape_of_unit? known]

/-- The second half of a pair is looked for in the next piece. -/
theorem pairedEscape_unit {a b c d : Char} {second : Nat} (known : unit? a b c d = some second)
    (leading : Nat) (pieces : List Piece) (rest : List Char) :
    pairedEscape leading
        ((.unit a b c d second known :: pieces).flatMap Piece.chars ++ '"' :: rest) =
      if isTrailing second then
        .ok (paired leading second, pieces.flatMap Piece.chars ++ '"' :: rest)
      else .error .malformed := by
  rw [unit_front]
  simp only [pairedEscape, if_true, hexEscape_of_unit? known]
  rfl

theorem pairedEscape_of_alone {pieces : List Piece}
    (alone : ∀ (a b c d : Char) (second : Nat) (known : unit? a b c d = some second)
      (others : List Piece), pieces = .unit a b c d second known :: others → False)
    (leading : Nat) (rest : List Char) :
    pairedEscape leading (pieces.flatMap Piece.chars ++ '"' :: rest) = .error .malformed := by
  cases pieces with
  | nil => rfl
  | cons piece pieces =>
      cases piece with
      | plain c itself =>
          rw [plain_front, pairedEscape.eq_def]
          exact if_neg itself.2.1
      | short letter meant known =>
          rw [short_front]
          simp only [pairedEscape, if_true, if_neg (ne_unit_of_known known)]
      | unit a b c d second known => exact absurd rfl (alone a b c d second known pieces)

/-- Strings are decoded by what their pieces spell. -/
theorem decode_pieces (pieces : List Piece) (rest : List Char) :
    decode (pieces.flatMap Piece.chars ++ '"' :: rest) = decoded (spelled? pieces) rest := by
  fun_induction spelled? pieces with
  | case1 =>
      rw [List.flatMap_nil, List.nil_append, decode, if_pos rfl]
      rfl
  | case2 c itself pieces ih =>
      obtain ⟨quotes, backslash, visible⟩ := itself
      rw [plain_front, decode, if_neg quotes, if_neg backslash, if_neg visible, ih]
      cases spelled? pieces <;> rfl
  | case3 letter meant known pieces ih =>
      have escaped : ∀ cs, escape (letter :: cs) = .ok (meant, cs) := by
        intro cs
        simp only [escape, if_neg (ne_unit_of_known known), known]
      rw [short_front, decode_backslash, escaped]
      simp only [ih]
      cases spelled? pieces <;> rfl
  | case4 a b c d value known pieces trailing =>
      rw [decode_unit known, if_pos trailing]
      rfl
  | case5 a b c d value known apart leading a' b' c' d' second known' pieces trailing ih =>
      rw [decode_unit known, if_neg apart, if_pos leading, pairedEscape_unit known',
        if_pos trailing]
      simp only [ih]
      cases spelled? pieces <;> rfl
  | case6 a b c d value known apart leading a' b' c' d' second known' pieces other =>
      rw [decode_unit known, if_neg apart, if_pos leading, pairedEscape_unit known', if_neg other]
      rfl
  | case7 a b c d value known pieces apart leading other =>
      rw [decode_unit known, if_neg apart, if_pos leading, pairedEscape_of_alone other]
      rfl
  | case8 a b c d value known pieces apart other ih =>
      rw [decode_unit known, if_neg apart, if_neg other]
      simp only [ih]
      cases spelled? pieces <;> rfl

/-- Passing over an escape. -/
theorem skip_backslash (d : Char) (ds : List Char) :
    skip ('\\' :: d :: ds) =
      if d = 'u' then
        match hexEscape ds with
        | .error fault => .error fault
        | .ok (_, rest) => skip rest
      else if (shortEscape? d).isSome then skip ds
      else .error .malformed := by
  have backslash : ¬ ('\\' = '"') := by decide
  rw [skip.eq_def]
  simp only [backslash, if_false, if_true]
  split
  · split <;> rename_i found
    · simp only [found]
    · simp only [found]
  · rfl

/-- Whoever passes over a string finds its end, whatever the pieces spell. -/
theorem skip_pieces (pieces : List Piece) (rest : List Char) :
    skip (pieces.flatMap Piece.chars ++ '"' :: rest) = .ok rest := by
  induction pieces with
  | nil =>
      rw [List.flatMap_nil, List.nil_append, skip.eq_def]
      exact if_pos rfl
  | cons piece pieces ih =>
      cases piece with
      | plain c itself =>
          obtain ⟨quotes, backslash, visible⟩ := itself
          rw [plain_front, skip.eq_def]
          simp only [quotes, backslash, visible, if_false, ih]
      | short letter meant known =>
          rw [short_front, skip_backslash, if_neg (ne_unit_of_known known), known,
            Option.isSome_some, if_pos rfl, ih]
      | unit a b c d value known =>
          rw [unit_front, skip_backslash, if_pos rfl, hexEscape_of_unit? known]
          exact ih

/-- A string is read behind its quotation mark. -/
theorem readString_pieces (pieces : List Piece) (rest : List Char) :
    readString (pieces.flatMap Piece.chars ++ '"' :: rest) = (textOf pieces, some rest) := by
  rw [readString, decode_pieces, textOf]
  cases spelled? pieces with
  | some text => rfl
  | none => simp only [decoded, skip_pieces]

/-- Behind a text that is read as four digits of a code unit stands the rest. -/
theorem exists_unit_of_hexEscape {cs rest : List Char} {value : Nat}
    (read : hexEscape cs = .ok (value, rest)) :
    ∃ a b c d, cs = a :: b :: c :: d :: rest ∧ unit? a b c d = some value := by
  unfold hexEscape at read
  split at read
  · rename_i a b c d behind
    split at read
    · rename_i ha hb hc hd
      cases read
      exact ⟨a, b, c, d, rfl, by simp only [unit?, ha, hb, hc, hd]⟩
    · cases read
  · cases read

theorem exists_unit_of_pairedEscape {leading : Nat} {cs rest : List Char} {meant : Char}
    (read : pairedEscape leading cs = .ok (meant, rest)) :
    ∃ a b c d value, ∃ known : unit? a b c d = some value,
      cs = (Piece.unit a b c d value known).chars ++ rest := by
  unfold pairedEscape at read
  split at read
  · cases read
  · rename_i first behind
    split at read
    · rename_i backslash
      split at read
      · cases read
      · rename_i second digits
        split at read
        · rename_i isUnit
          split at read
          · cases read
          · rename_i value after found
            split at read
            · obtain ⟨a, b, c, d, rfl, known⟩ := exists_unit_of_hexEscape found
              obtain rfl := (Prod.mk.inj (Except.ok.inj read)).2
              exact ⟨a, b, c, d, value, known, by rw [backslash, isUnit]; rfl⟩
            · cases read
        · cases read
    · cases read

/-- What is read behind a backslash is one piece, or a pair of them. -/
theorem exists_pieces_of_escape {cs rest : List Char} {meant : Char}
    (read : escape cs = .ok (meant, rest)) :
    ∃ pieces : List Piece, '\\' :: cs = pieces.flatMap Piece.chars ++ rest := by
  unfold escape at read
  split at read
  · cases read
  · rename_i letter behind
    split at read
    · rename_i isUnit
      split at read
      · cases read
      · rename_i value after found
        obtain ⟨a, b, c, d, rfl, known⟩ := exists_unit_of_hexEscape found
        split at read
        · cases read
        · split at read
          · obtain ⟨a', b', c', d', second, known', rfl⟩ := exists_unit_of_pairedEscape read
            exact ⟨[.unit a b c d value known, .unit a' b' c' d' second known'], by
              simp [Piece.chars, isUnit]⟩
          · obtain rfl := (Prod.mk.inj (Except.ok.inj read)).2
            exact ⟨[.unit a b c d value known], by simp [Piece.chars, isUnit]⟩
    · split at read
      · rename_i found known
        obtain rfl := (Prod.mk.inj (Except.ok.inj read)).2
        exact ⟨[.short letter found known], by simp [Piece.chars]⟩
      · cases read

/-- A text consists of pieces up to a closing quotation mark, and the rest stands behind it. -/
def Closes (cs rest : List Char) : Prop :=
  ∃ pieces : List Piece, cs = pieces.flatMap Piece.chars ++ '"' :: rest

theorem Closes.behind {cs rest : List Char} (closes : Closes cs rest) (pieces : List Piece) :
    Closes (pieces.flatMap Piece.chars ++ cs) rest := by
  obtain ⟨others, rfl⟩ := closes
  exact ⟨pieces ++ others, by rw [List.flatMap_append, List.append_assoc]⟩

theorem Closes.behind_plain {c : Char} {cs rest : List Char} (closes : Closes cs rest)
    (quotes : c ≠ '"') (backslash : c ≠ '\\') (visible : ¬ c.toNat < 32) : Closes (c :: cs) rest :=
  closes.behind [.plain c ⟨quotes, backslash, visible⟩]

theorem closes_of_decode {cs text rest : List Char} (read : decode cs = .ok (text, rest)) :
    Closes cs rest := by
  fun_induction decode cs generalizing text rest with
  | case1 => cases read
  | case2 behind =>
      cases read
      exact ⟨[], rfl⟩
  | case3 => cases read
  | case4 => cases read
  | case5 behind meant after found shorter text' tail decoded other ih =>
      cases read
      obtain ⟨pieces, same⟩ := exists_pieces_of_escape found
      rw [same]
      exact (ih decoded).behind pieces
  | case6 => cases read
  | case7 => cases read
  | case8 c behind quotes backslash visible text' tail decoded ih =>
      cases read
      exact (ih decoded).behind_plain quotes backslash visible

theorem closes_of_skip {cs rest : List Char} (read : skip cs = .ok rest) : Closes cs rest := by
  fun_induction skip cs generalizing rest with
  | case1 => cases read
  | case2 behind =>
      cases read
      exact ⟨[], rfl⟩
  | case3 => cases read
  | case4 => cases read
  | case5 behind value after found shorter other ih =>
      obtain ⟨a, b, c, d, rfl, known⟩ := exists_unit_of_hexEscape found
      exact (ih read).behind [.unit a b c d value known]
  | case6 letter behind notUnit short other ih =>
      obtain ⟨meant, known⟩ := Option.isSome_iff_exists.mp short
      exact (ih read).behind [.short letter meant known]
  | case7 => cases read
  | case8 => cases read
  | case9 c behind quotes backslash visible ih =>
      exact (ih read).behind_plain quotes backslash visible

/-- Behind whatever is read as a string stands what follows its closing quotation mark. -/
theorem exists_pieces_of_readString {cs rest : List Char} {outcome : Except Defect String}
    (read : readString cs = (outcome, some rest)) :
    ∃ pieces : List Piece, cs = pieces.flatMap Piece.chars ++ '"' :: rest ∧
      outcome = textOf pieces := by
  have closes : Closes cs rest := by
    unfold readString at read
    split at read
    · rename_i decoded
      cases read
      exact closes_of_decode decoded
    · split at read
      · rename_i skipped
        cases read
        exact closes_of_skip skipped
      · cases read
  obtain ⟨pieces, rfl⟩ := closes
  rw [readString_pieces] at read
  exact ⟨pieces, rfl, (Prod.mk.inj read).1.symm⟩

/-! ## Numbers -/

/-- An exponent as it is written: the letter, a sign if there is one, and digits. -/
structure ExponentText where
  capital : Bool
  /-- Whether the sign is a minus. -/
  sign : Option Bool
  digits : List Char
  nonempty : digits ≠ []
  digital : ∀ c ∈ digits, isDigit c = true

namespace ExponentText

/-- A sign as it is written, if there is one. -/
def signChars : Option Bool → List Char
  | none => []
  | some true => ['-']
  | some false => ['+']

def chars (exponent : ExponentText) : List Char :=
  (if exponent.capital then 'E' else 'e') :: (signChars exponent.sign ++ exponent.digits)

/-- The characters of an exponent that may be missing. -/
def charsOf : Option ExponentText → List Char
  | none => []
  | some exponent => exponent.chars

/-- What the exponent is read as. -/
def written (exponent : ExponentText) : WrittenExponent :=
  ⟨exponent.sign = some true, exponent.digits⟩

end ExponentText

/-- A number as it is written.  A leading zero stands alone, and where there is a point, digits
stand on both of its sides. -/
structure NumberText where
  negative : Bool
  integer : List Char
  /-- The digits behind the point; none if there is no point. -/
  fraction : List Char
  exponent : Option ExponentText
  nonempty : integer ≠ []
  digital : ∀ c ∈ integer ++ fraction, isDigit c = true
  zero_alone : ∀ cs, integer = '0' :: cs → cs = []

namespace NumberText

/-- The point with the digits behind it, if there are any. -/
def pointed (fraction : List Char) : List Char :=
  if fraction = [] then [] else '.' :: fraction

def fractionChars (number : NumberText) : List Char :=
  pointed number.fraction

def exponentChars (number : NumberText) : List Char :=
  ExponentText.charsOf number.exponent

/-- The number behind its sign. -/
def body (number : NumberText) : List Char :=
  number.integer ++ (number.fractionChars ++ number.exponentChars)

def chars (number : NumberText) : List Char :=
  if number.negative then '-' :: number.body else number.body

/-- What the number is read as behind its sign. -/
def numeral (number : NumberText) : Numeral :=
  ⟨number.integer, number.fraction, number.exponent.map ExponentText.written⟩

/-- What a reader makes of the number: a value, or a defect that matters to those only who ask for
the value. -/
def reading (number : NumberText) : Reading :=
  match number.numeral.number? number.negative with
  | some value => .number value
  | none => .flawed (.number ⟨.malformed, none⟩)

end NumberText

/-- Behind its letter an exponent has a sign, if it has one, and digits. -/
theorem readExponent_signed {integer fraction start : List Char} (capital : Bool)
    (sign : Option Bool)
    (unsigned : sign = none → ∀ c cs, start = c :: cs → c ≠ '-' ∧ c ≠ '+') :
    readExponent integer fraction
        ((if capital then 'E' else 'e') :: (ExponentText.signChars sign ++ start)) =
      match Decimal.span start with
      | ([], rest) => .error (brokenOff rest)
      | (digits, rest) =>
        .ok (⟨integer, fraction, some ⟨sign = some true, digits⟩⟩, rest) := by
  have letter : ∀ cs, readExponent integer fraction
      ((if capital then 'E' else 'e') :: cs) = readExponent integer fraction ('e' :: cs) := by
    intro cs
    cases capital <;> rfl
  rw [letter]
  cases sign with
  | none =>
      cases start with
      | nil => rfl
      | cons c cs =>
          obtain ⟨minus, plus⟩ := unsigned rfl c cs rfl
          simp only [readExponent, ExponentText.signChars, List.nil_append, true_or, if_true,
            List.cons.injEq, minus, plus, false_and, imp_self, implies_true]
          rfl
  | some negative => cases negative <;> rfl

namespace NumberText

variable (number : NumberText)

theorem exponentChars_cases (rest : List Char) :
    number.exponent = none ∧ number.exponentChars ++ rest = rest ∨
      ∃ mark tail, (mark = 'e' ∨ mark = 'E') ∧ number.exponentChars ++ rest = mark :: tail := by
  unfold exponentChars
  cases number.exponent with
  | none => exact .inl ⟨rfl, rfl⟩
  | some exponent =>
      refine .inr ⟨_, _, ?_, rfl⟩
      cases exponent.capital
      · exact .inl rfl
      · exact .inr rfl

/-- Behind the digits of a number stands neither a digit nor, behind the fraction, a point. -/
theorem exponentChars_stops {rest : List Char} (apart : Apart rest) {c : Char} {cs : List Char}
    (begins : number.exponentChars ++ rest = c :: cs) : isDigit c = false ∧ c ≠ '.' := by
  rcases number.exponentChars_cases rest with ⟨-, same⟩ | ⟨mark, tail, letter, same⟩
  · rw [same] at begins
    obtain ⟨notDigit, point, -⟩ := apart c cs begins
    exact ⟨notDigit, point⟩
  · rw [same] at begins
    obtain ⟨rfl, -⟩ := List.cons.inj begins
    rcases letter with rfl | rfl <;> exact ⟨by decide, by decide⟩

theorem fractionChars_stops {rest : List Char} (apart : Apart rest) {c : Char} {cs : List Char}
    (begins : number.fractionChars ++ (number.exponentChars ++ rest) = c :: cs) :
    isDigit c = false := by
  rw [fractionChars, pointed] at begins
  split at begins
  · exact (number.exponentChars_stops apart begins).1
  · obtain ⟨rfl, -⟩ := List.cons.inj begins
    decide

theorem readExponent_chars {rest : List Char} (apart : Apart rest) (integer fraction : List Char) :
    readExponent integer fraction (number.exponentChars ++ rest) =
      .ok (⟨integer, fraction, number.exponent.map ExponentText.written⟩, rest) := by
  unfold exponentChars
  cases number.exponent with
  | none => exact readExponent_of_apart apart
  | some exponent =>
      obtain ⟨capital, sign, digits, nonempty, digital⟩ := exponent
      have unsigned : ∀ c cs, digits ++ rest = c :: cs → c ≠ '-' ∧ c ≠ '+' := by
        intro c cs begins
        obtain ⟨d, ds, rfl⟩ := List.exists_cons_of_ne_nil nonempty
        obtain ⟨rfl, -⟩ := List.cons.inj begins
        have digit := digital d List.mem_cons_self
        constructor <;>
        · rintro rfl
          cases digit
      rw [ExponentText.charsOf, ExponentText.chars, List.cons_append, List.append_assoc,
        readExponent_signed capital sign fun _ => unsigned, Decimal.span_append digital apart]
      cases digits with
      | nil => exact absurd rfl nonempty
      | cons d ds => rfl

theorem readFraction_chars {rest : List Char} (apart : Apart rest) (integer : List Char) :
    readFraction integer (number.fractionChars ++ (number.exponentChars ++ rest)) =
      .ok (⟨integer, number.fraction, number.exponent.map ExponentText.written⟩, rest) := by
  have stops : ∀ c cs, number.exponentChars ++ rest = c :: cs → isDigit c = false :=
    fun c cs begins => (number.exponentChars_stops apart begins).1
  by_cases none : number.fraction = []
  · rw [fractionChars, pointed, if_pos none, List.nil_append, none, readFraction]
    · exact number.readExponent_chars apart integer []
    · intro cs begins
      exact (number.exponentChars_stops apart begins).2 rfl
  · have digital : ∀ c ∈ number.fraction, isDigit c = true :=
      fun c mem => number.digital c (List.mem_append_right _ mem)
    have span := Decimal.span_append_of_stops digital stops
    obtain ⟨d, ds, written⟩ := List.exists_cons_of_ne_nil none
    rw [fractionChars, pointed, if_neg none, List.cons_append, readFraction, span, written]
    exact number.readExponent_chars apart integer (d :: ds)

/-- A numeral is read as it is written, up to where it ends. -/
theorem readNumeral_body {rest : List Char} (apart : Apart rest) :
    readNumeral (number.body ++ rest) = .ok (number.numeral, rest) := by
  obtain ⟨d, ds, written⟩ := List.exists_cons_of_ne_nil number.nonempty
  have read := number.readFraction_chars apart number.integer
  have stops : ∀ c cs, number.fractionChars ++ (number.exponentChars ++ rest) = c :: cs →
      isDigit c = false := fun c cs => number.fractionChars_stops apart
  rw [body, List.append_assoc, List.append_assoc, numeral]
  generalize number.fractionChars ++ (number.exponentChars ++ rest) = tail at read stops ⊢
  rw [written] at read ⊢
  rw [List.cons_append]
  unfold readNumeral
  by_cases zero : d = '0'
  · obtain rfl := zero
    obtain rfl := number.zero_alone ds written
    rw [List.nil_append]
    simp only [if_true]
    cases tail with
    | nil => exact read
    | cons c cs =>
        simp only [stops c cs rfl, Bool.false_eq_true, if_false]
        exact read
  · have digit : isDigit d = true :=
      number.digital d (List.mem_append_left _ (written ▸ List.mem_cons_self))
    have digital : ∀ c ∈ ds, isDigit c = true := fun c mem =>
      number.digital c (List.mem_append_left _ (written ▸ List.mem_cons_of_mem d mem))
    simp only [zero, if_false, digit, if_true, Decimal.span_append_of_stops digital stops]
    exact read

theorem readNumber_body {rest : List Char} (apart : Apart rest) :
    readNumber number.negative (number.body ++ rest) = (number.reading, some rest) := by
  rw [readNumber, number.readNumeral_body apart, reading]
  simp only
  cases number.numeral.number? number.negative <;> rfl

/-- A number is read as it is written, up to where it ends. -/
theorem readValue_chars {rest : List Char} (apart : Apart rest) (fuel : Nat) :
    readValue (fuel + 1) (number.chars ++ rest) = (number.reading, some rest) := by
  have read := number.readNumber_body apart
  obtain ⟨d, ds, written⟩ := List.exists_cons_of_ne_nil number.nonempty
  have digit : isDigit d = true :=
    number.digital d (List.mem_append_left _ (written ▸ List.mem_cons_self))
  rw [chars]
  cases negative : number.negative with
  | true =>
      rw [negative] at read
      rw [if_pos rfl, List.cons_append, readValue_minus, read]
  | false =>
      rw [negative] at read
      rw [if_neg Bool.false_ne_true]
      rw [body, written] at read ⊢
      exact (readValue_of_isDigit digit _ fuel).trans read

end NumberText

theorem span_eq {cs digits rest : List Char} (read : Decimal.span cs = (digits, rest)) :
    cs = digits ++ rest ∧ ∀ c ∈ digits, isDigit c = true := by
  obtain ⟨rfl, rfl⟩ := Prod.mk.inj read
  refine ⟨List.takeWhile_append_dropWhile.symm, fun c mem => ?_⟩
  exact List.all_eq_true.mp List.all_takeWhile c mem

theorem ExponentText.exists_sign (cs : List Char) :
    ∃ (sign : Option Bool) (start : List Char), cs = signChars sign ++ start ∧
      (sign = none → ∀ d ds, start = d :: ds → d ≠ '-' ∧ d ≠ '+') := by
  by_cases minus : ∃ start, cs = '-' :: start
  · obtain ⟨start, rfl⟩ := minus
    exact ⟨some true, start, rfl, fun none => absurd none (Option.some_ne_none _)⟩
  · by_cases plus : ∃ start, cs = '+' :: start
    · obtain ⟨start, rfl⟩ := plus
      exact ⟨some false, start, rfl, fun none => absurd none (Option.some_ne_none _)⟩
    · refine ⟨none, cs, rfl, ?_⟩
      rintro - d ds rfl
      exact ⟨fun same => minus ⟨ds, by rw [same]⟩, fun same => plus ⟨ds, by rw [same]⟩⟩

theorem exists_exponent_of_readExponent {integer fraction cs rest : List Char} {numeral : Numeral}
    (read : readExponent integer fraction cs = .ok (numeral, rest)) :
    ∃ exponent : Option ExponentText, cs = ExponentText.charsOf exponent ++ rest ∧
      numeral = ⟨integer, fraction, exponent.map ExponentText.written⟩ := by
  cases cs with
  | nil =>
      cases read
      exact ⟨none, rfl, rfl⟩
  | cons mark behind =>
      by_cases letter : mark = 'e' ∨ mark = 'E'
      · obtain ⟨capital, rfl⟩ : ∃ capital : Bool, mark = if capital then 'E' else 'e' := by
          rcases letter with rfl | rfl
          · exact ⟨false, rfl⟩
          · exact ⟨true, rfl⟩
        obtain ⟨sign, start, rfl, unsigned⟩ := ExponentText.exists_sign behind
        rw [readExponent_signed capital sign unsigned] at read
        split at read
        · cases read
        · rename_i digits after nonempty found
          cases read
          obtain ⟨rfl, digital⟩ := span_eq found
          refine ⟨some ⟨capital, sign, digits, nonempty, digital⟩, ?_, rfl⟩
          rw [ExponentText.charsOf, ExponentText.chars, List.cons_append, List.append_assoc]
      · unfold readExponent at read
        simp only [if_neg letter] at read
        cases read
        exact ⟨none, rfl, rfl⟩

theorem exists_fraction_of_readFraction {integer cs rest : List Char} {numeral : Numeral}
    (read : readFraction integer cs = .ok (numeral, rest)) :
    ∃ (fraction : List Char) (exponent : Option ExponentText),
      cs = NumberText.pointed fraction ++ (ExponentText.charsOf exponent ++ rest) ∧
      (∀ c ∈ fraction, isDigit c = true) ∧
      numeral = ⟨integer, fraction, exponent.map ExponentText.written⟩ := by
  unfold readFraction at read
  split at read
  · split at read
    · cases read
    · rename_i digits after nonempty found
      obtain ⟨rfl, digital⟩ := span_eq found
      obtain ⟨exponent, rfl, same⟩ := exists_exponent_of_readExponent read
      refine ⟨digits, exponent, ?_, digital, same⟩
      rw [NumberText.pointed, if_neg nonempty, List.cons_append]
  · obtain ⟨exponent, rfl, same⟩ := exists_exponent_of_readExponent read
    exact ⟨[], exponent, rfl, List.forall_mem_nil _, same⟩

/-- A number is made up from its integer and from what is read behind it. -/
theorem exists_number_of_readFraction {integer tail rest : List Char} {numeral : Numeral}
    (negative : Bool) (nonempty : integer ≠ []) (digital : ∀ c ∈ integer, isDigit c = true)
    (alone : ∀ ds, integer = '0' :: ds → ds = [])
    (read : readFraction integer tail = .ok (numeral, rest)) :
    ∃ number : NumberText, number.negative = negative ∧ integer ++ tail = number.body ++ rest ∧
      number.numeral = numeral := by
  obtain ⟨fraction, exponent, rfl, digital', rfl⟩ := exists_fraction_of_readFraction read
  have all : ∀ c ∈ integer ++ fraction, isDigit c = true := fun c mem =>
    (List.mem_append.mp mem).elim (digital c) (digital' c)
  refine ⟨⟨negative, integer, fraction, exponent, nonempty, all, alone⟩, rfl, ?_, rfl⟩
  rw [NumberText.body, List.append_assoc, List.append_assoc]
  rfl

/-- Whatever is read as a numeral is a number as it may be written. -/
theorem exists_number_of_readNumeral {cs rest : List Char} {numeral : Numeral} (negative : Bool)
    (read : readNumeral cs = .ok (numeral, rest)) :
    ∃ number : NumberText, number.negative = negative ∧ cs = number.body ++ rest ∧
      number.numeral = numeral := by
  unfold readNumeral at read
  split at read
  · cases read
  · rename_i d behind
    split at read
    · rename_i zero
      obtain rfl := zero
      have nonempty : ['0'] ≠ [] := List.cons_ne_nil _ _
      have digital : ∀ c ∈ ['0'], isDigit c = true := List.forall_mem_singleton.mpr rfl
      have alone : ∀ ds, ['0'] = '0' :: ds → ds = [] := fun ds same =>
        (List.cons.inj same).2.symm
      split at read
      · split at read
        · cases read
        · exact exists_number_of_readFraction negative nonempty digital alone read
      · exact exists_number_of_readFraction negative nonempty digital alone read
    · rename_i other
      split at read
      · rename_i digit
        generalize found : Decimal.span behind = parts at read
        obtain ⟨digits, after⟩ := parts
        obtain ⟨rfl, digital⟩ := span_eq found
        have alone : ∀ ds, d :: digits = '0' :: ds → ds = [] := fun ds begins =>
          absurd (List.cons.inj begins).1 other
        exact exists_number_of_readFraction negative (List.cons_ne_nil _ _)
          (List.forall_mem_cons.mpr ⟨digit, digital⟩) alone read
      · cases read

theorem exists_number_of_readNumber {negative : Bool} {cs rest : List Char} {reading : Reading}
    (read : readNumber negative cs = (reading, some rest)) :
    ∃ number : NumberText, number.negative = negative ∧ cs = number.body ++ rest ∧
      number.reading = reading := by
  unfold readNumber at read
  split at read
  · cases read
  · rename_i numeral after found
    obtain ⟨number, rfl, rfl, rfl⟩ := exists_number_of_readNumeral negative found
    refine ⟨number, rfl, ?_, ?_⟩
    · split at read <;> cases read <;> rfl
    · rw [NumberText.reading]
      generalize number.numeral.number? number.negative = value at read ⊢
      cases value <;> cases read <;> rfl

end FormatterHost.Json
