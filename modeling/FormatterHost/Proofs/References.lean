import Mathlib.Data.List.TakeWhile
import Mathlib.Logic.Basic
import FormatterHost.Settings.Substitution

/-!
# References, each replaced once

A text is thought of as references and other characters.  One pass from left to right replaces each
reference and copies everything else.  The two passes of the substitution come to the same unless a
value that stands for a name in braces is read again: because it holds a reference itself, or
because it goes on where a bare name stops.
-/

namespace FormatterHost

namespace Text

variable {c : Char}

theorem toNat_of_isUpper (upper : c.isUpper = true) : 65 ≤ c.toNat ∧ c.toNat ≤ 90 := by
  obtain ⟨from_A, to_Z⟩ := of_decide_eq_true upper
  exact ⟨UInt32.le_iff_toNat_le.mp from_A, UInt32.le_iff_toNat_le.mp to_Z⟩

theorem toNat_of_isLower (lower : c.isLower = true) : 97 ≤ c.toNat ∧ c.toNat ≤ 122 := by
  obtain ⟨from_a, to_z⟩ := Bool.and_eq_true_iff.mp lower
  constructor
  · exact UInt32.le_iff_toNat_le.mp (of_decide_eq_true from_a)
  · exact UInt32.le_iff_toNat_le.mp (of_decide_eq_true to_z)

theorem toNat_of_isDigit (digit : c.isDigit = true) : 48 ≤ c.toNat ∧ c.toNat ≤ 57 := by
  obtain ⟨from_zero, to_nine⟩ := Bool.and_eq_true_iff.mp digit
  constructor
  · exact UInt32.le_iff_toNat_le.mp (of_decide_eq_true from_zero)
  · exact UInt32.le_iff_toNat_le.mp (of_decide_eq_true to_nine)

end Text

namespace Substitution

open Text (isWordChar toNat_of_isDigit toNat_of_isLower toNat_of_isUpper)

/-! ## Names and references -/

/-- The names of variables. -/
def IsName (name : List Char) : Prop :=
  ∃ first others, name = first :: others ∧ isNameStart first = true ∧
    ∀ c ∈ others, isNameChar c = true

/-- The text begins with a character of a kind. -/
def StartsWith (kind : Char → Bool) (cs : List Char) : Prop :=
  ∃ c rest, cs = c :: rest ∧ kind c = true

/-- A reference in braces, as it is written. -/
def braced (name : List Char) : List Char :=
  ['$', '\x7b'] ++ name ++ ['\x7d']

/-- A reference to a variable at the beginning of a text: how it is written, and what follows. -/
inductive Reference (name : List Char) : List Char → List Char → Prop where
  | braced {rest : List Char} (isName : IsName name) : Reference name (braced name) rest
  | bare {rest : List Char} (isName : IsName name) (apart : ¬ StartsWith isWordChar rest) :
      Reference name ('$' :: name) rest

/-- The name, the written form and what follows it, of the reference that a text begins with. -/
def reference? : List Char → Option (List Char × List Char × List Char)
  | '$' :: cs =>
    match readBraced? cs with
    | some (name, rest) => some (name, braced name, rest)
    | none => (readBare? cs).map fun (name, rest) => (name, '$' :: name, rest)
  | _ => none

theorem isNameChar_of_isNameStart {c : Char} (start : isNameStart c = true) :
    isNameChar c = true := by
  rw [isNameChar, start, Bool.true_or]

/-- A name does not stop before a character that names can contain. -/
theorem isWordChar_of_isNameChar {c : Char} (inName : isNameChar c = true) :
    isWordChar c = true := by
  rw [isNameChar, isNameStart, Bool.or_right_comm] at inName
  have ascii : c.toNat < 128 := by
    rcases Bool.or_eq_true_iff.mp inName with alphanum | underscore
    · rcases Bool.or_eq_true_iff.mp alphanum with alpha | digit
      · rcases Bool.or_eq_true_iff.mp alpha with upper | lower
        · exact Nat.lt_of_le_of_lt (toNat_of_isUpper upper).2 (by decide)
        · exact Nat.lt_of_le_of_lt (toNat_of_isLower lower).2 (by decide)
      · exact Nat.lt_of_le_of_lt (toNat_of_isDigit digit).2 (by decide)
    · rw [beq_iff_eq.mp underscore]
      decide
  rw [isWordChar, if_pos ascii]
  exact inName

theorem StartsWith.of_isNameChar {cs : List Char} (starts : StartsWith isNameChar cs) :
    StartsWith isWordChar cs := by
  obtain ⟨c, rest, rfl, inName⟩ := starts
  exact ⟨c, rest, rfl, isWordChar_of_isNameChar inName⟩

namespace IsName

variable {name : List Char}

theorem isNameChar (isName : IsName name) : ∀ c ∈ name, isNameChar c = true := by
  obtain ⟨first, others, rfl, start, chars⟩ := isName
  exact List.forall_mem_cons.mpr ⟨isNameChar_of_isNameStart start, chars⟩

theorem dollar_not_mem (isName : IsName name) : '$' ∉ name :=
  fun mem => absurd (isName.isNameChar _ mem) (by decide)

end IsName

/-- Taking name characters stops where none follows. -/
theorem takeWhile_isNameChar_append {name rest : List Char}
    (chars : ∀ c ∈ name, isNameChar c = true) (stops : ¬ StartsWith isNameChar rest) :
    (name ++ rest).takeWhile isNameChar = name ∧ (name ++ rest).dropWhile isNameChar = rest := by
  have nothing : rest.takeWhile isNameChar = [] ∧ rest.dropWhile isNameChar = rest := by
    cases rest with
    | nil => exact ⟨rfl, rfl⟩
    | cons c rest =>
        have not : isNameChar c = false := Bool.eq_false_iff.mpr fun h => stops ⟨c, rest, rfl, h⟩
        constructor
        · exact List.takeWhile_cons_of_neg (by simp [not])
        · exact List.dropWhile_cons_of_neg (by simp [not])
  rw [List.takeWhile_append_of_pos chars, List.dropWhile_append_of_pos chars, nothing.1, nothing.2,
    List.append_nil]
  exact ⟨rfl, rfl⟩

/-- What a text is split into: the longest row of name characters, and a rest that begins with no
such character. -/
theorem exists_split (cs : List Char) :
    ∃ name rest, cs = name ++ rest ∧ (∀ c ∈ name, isNameChar c = true) ∧
      ¬ StartsWith isNameChar rest := by
  refine ⟨cs.takeWhile isNameChar, cs.dropWhile isNameChar, List.takeWhile_append_dropWhile.symm,
    fun c mem => List.mem_takeWhile_imp mem, ?_⟩
  rintro ⟨c, rest, split, inName⟩
  have stopped := List.head_dropWhile_not isNameChar (l := cs) (by simp [split])
  simp only [split, List.head_cons] at stopped
  rw [inName] at stopped
  cases stopped

/-- Where name characters end, a name is read if they are one. -/
theorem readName?_append {name rest : List Char} (chars : ∀ c ∈ name, isNameChar c = true)
    (stops : ¬ StartsWith isNameChar rest) :
    (IsName name → readName? (name ++ rest) = some (name, rest)) ∧
      (¬ IsName name → readName? (name ++ rest) = none) := by
  cases name with
  | nil =>
      refine ⟨fun isName => ?_, fun _ => ?_⟩
      · obtain ⟨first, others, same, -⟩ := isName
        cases same
      · cases rest with
        | nil => rfl
        | cons c rest =>
            have not : isNameStart c = false := Bool.eq_false_iff.mpr fun h =>
              stops ⟨c, rest, rfl, isNameChar_of_isNameStart h⟩
            simp [readName?, not]
  | cons c others =>
      have chars' := (List.forall_mem_cons.mp chars).2
      obtain ⟨taken, dropped⟩ := takeWhile_isNameChar_append chars' stops
      constructor
      · rintro ⟨first, others', same, start, -⟩
        cases same
        rw [List.cons_append, readName?, if_pos start, taken, dropped]
      · intro noName
        have not : ¬ isNameStart c = true := fun start => noName ⟨c, others, rfl, start, chars'⟩
        rw [List.cons_append, readName?, if_neg not]

theorem readName?_eq_some_iff {cs name rest : List Char} :
    readName? cs = some (name, rest) ↔
      cs = name ++ rest ∧ IsName name ∧ ¬ StartsWith isNameChar rest := by
  constructor
  · intro read
    obtain ⟨name', rest', rfl, chars, stops⟩ := exists_split cs
    obtain ⟨found, lost⟩ := readName?_append chars stops
    by_cases isName : IsName name'
    · rw [found isName] at read
      cases read
      exact ⟨rfl, isName, stops⟩
    · rw [lost isName] at read
      cases read
  · rintro ⟨rfl, isName, stops⟩
    exact (readName?_append isName.isNameChar stops).1 isName

/-- A reference in braces is read exactly where one is written. -/
theorem readBraced?_eq_some_iff {cs name rest : List Char} :
    readBraced? cs = some (name, rest) ↔ IsName name ∧ '$' :: cs = braced name ++ rest := by
  constructor
  · intro read
    unfold readBraced? at read
    split at read
    · split at read
      · rename_i found
        cases read
        obtain ⟨rfl, isName, -⟩ := readName?_eq_some_iff.mp found
        exact ⟨isName, by simp [braced]⟩
      · cases read
    · cases read
  · rintro ⟨isName, same⟩
    have split : cs = '\x7b' :: (name ++ '\x7d' :: rest) := by
      simpa [braced] using same
    have stops : ¬ StartsWith isNameChar ('\x7d' :: rest) := by
      rintro ⟨c, rest', same, inName⟩
      cases same
      revert inName
      decide
    have found := readName?_eq_some_iff.mpr ⟨rfl, isName, stops⟩
    rw [split]
    simp only [readBraced?, found]

/-- No reference in braces begins with a name. -/
theorem readBraced?_of_isName {name : List Char} (isName : IsName name) (rest : List Char) :
    readBraced? (name ++ rest) = none := by
  obtain ⟨first, others, rfl, start, -⟩ := isName
  have other : first ≠ '\x7b' := by
    rintro rfl
    revert start
    decide
  rw [List.cons_append]
  unfold readBraced?
  split
  · rename_i same
    exact absurd (List.cons.inj same).1 other
  · rfl

/-- Where name characters end, a bare reference is read if they are a name and end a word. -/
theorem readBare?_append {name rest : List Char} (chars : ∀ c ∈ name, isNameChar c = true)
    (stops : ¬ StartsWith isNameChar rest) :
    (IsName name → ¬ StartsWith isWordChar rest → readBare? (name ++ rest) = some (name, rest)) ∧
      (¬ IsName name ∨ StartsWith isWordChar rest → readBare? (name ++ rest) = none) := by
  obtain ⟨found, lost⟩ := readName?_append chars stops
  constructor
  · intro isName apart
    cases rest with
    | nil => simp only [readBare?, found isName]
    | cons c rest =>
        have not : isWordChar c = false := Bool.eq_false_iff.mpr fun h => apart ⟨c, rest, rfl, h⟩
        simp only [readBare?, found isName, not, Bool.false_eq_true, if_false]
  · intro fails
    by_cases isName : IsName name
    · obtain ⟨c, rest, rfl, word⟩ := fails.resolve_left (not_not_intro isName)
      simp only [readBare?, found isName, word, if_true]
    · simp only [readBare?, lost isName]

theorem readBare?_eq_some_iff {cs name rest : List Char} :
    readBare? cs = some (name, rest) ↔
      cs = name ++ rest ∧ IsName name ∧ ¬ StartsWith isWordChar rest := by
  constructor
  · intro read
    obtain ⟨name', rest', rfl, chars, stops⟩ := exists_split cs
    obtain ⟨found, lost⟩ := readBare?_append chars stops
    by_cases fails : ¬ IsName name' ∨ StartsWith isWordChar rest'
    · rw [lost fails] at read
      cases read
    · rw [not_or, not_not] at fails
      rw [found fails.1 fails.2] at read
      cases read
      exact ⟨rfl, fails.1, fails.2⟩
  · rintro ⟨rfl, isName, apart⟩
    exact (readBare?_append isName.isNameChar (mt StartsWith.of_isNameChar apart)).1 isName apart

/-- The reference that is found at the beginning of a text is the only one that is there. -/
theorem reference?_eq_some_iff {cs name written rest : List Char} :
    reference? cs = some (name, written, rest) ↔
      cs = written ++ rest ∧ Reference name written rest := by
  constructor
  · intro found
    unfold reference? at found
    split at found
    · split at found
      · rename_i read
        cases found
        obtain ⟨isName, same⟩ := readBraced?_eq_some_iff.mp read
        exact ⟨same, .braced isName⟩
      · obtain ⟨⟨name', rest'⟩, read, same⟩ := Option.map_eq_some_iff.mp found
        cases same
        obtain ⟨rfl, isName, apart⟩ := readBare?_eq_some_iff.mp read
        exact ⟨rfl, .bare isName apart⟩
    · cases found
  · rintro ⟨rfl, reference⟩
    cases reference with
    | braced isName =>
        have shape : braced name ++ rest = '$' :: '\x7b' :: (name ++ '\x7d' :: rest) := by
          simp [braced]
        have read := readBraced?_eq_some_iff.mpr ⟨isName, shape.symm⟩
        rw [shape]
        simp only [reference?, read]
    | bare isName apart =>
        have read := readBare?_eq_some_iff.mpr ⟨rfl, isName, apart⟩
        rw [List.cons_append]
        simp only [reference?, readBraced?_of_isName isName, read, Option.map_some]

/-! ## One pass -/

theorem length_lt_of_reference? {cs name written rest : List Char}
    (found : reference? cs = some (name, written, rest)) : rest.length < cs.length := by
  obtain ⟨rfl, reference⟩ := reference?_eq_some_iff.mp found
  cases reference with
  | braced _ =>
      simp only [braced, List.length_append, List.length_cons]
      omega
  | bare _ _ =>
      simp only [List.length_append, List.length_cons]
      omega

/-- The text with each reference replaced by the value of its variable, if that is set, and
everything else copied. -/
def replaceOnce (environment : Environment) (cs : List Char) : List Char :=
  match found : reference? cs with
  | some (name, written, rest) =>
    have := length_lt_of_reference? found
    expansion environment name written ++ replaceOnce environment rest
  | none =>
    match cs with
    | [] => []
    | c :: rest => c :: replaceOnce environment rest
termination_by cs.length

theorem replaceOnce_of_some {environment : Environment} {cs name written rest : List Char}
    (found : reference? cs = some (name, written, rest)) :
    replaceOnce environment cs =
      expansion environment name written ++ replaceOnce environment rest := by
  rw [replaceOnce]
  split
  · rename_i found'
    rw [found] at found'
    cases found'
    rfl
  · rename_i found'
    rw [found] at found'
    cases found'

theorem replaceOnce_of_none {environment : Environment} {c : Char} {rest : List Char}
    (found : reference? (c :: rest) = none) :
    replaceOnce environment (c :: rest) = c :: replaceOnce environment rest := by
  rw [replaceOnce]
  split
  · rename_i found'
    rw [found] at found'
    cases found'
  · rfl

theorem replaceOnce_nil (environment : Environment) : replaceOnce environment [] = [] := by
  rw [replaceOnce]
  rfl

/-! ## The two passes -/

variable {environment : Environment}

theorem replaceBraced_of_ne {c : Char} (other : c ≠ '$') (rest : List Char) :
    replaceBraced environment (c :: rest) = c :: replaceBraced environment rest := by
  rw [replaceBraced, if_neg other]

theorem replaceBraced_dollar {rest : List Char} (unbraced : readBraced? rest = none) :
    replaceBraced environment ('$' :: rest) = '$' :: replaceBraced environment rest := by
  rw [replaceBraced, if_pos rfl]
  split
  · rename_i read
    rw [unbraced] at read
    cases read
  · rfl

theorem replaceBraced_braced {name : List Char} (isName : IsName name) (rest : List Char) :
    replaceBraced environment (braced name ++ rest) =
      expansion environment name (braced name) ++ replaceBraced environment rest := by
  have shape : braced name ++ rest = '$' :: '\x7b' :: (name ++ '\x7d' :: rest) := by
    simp [braced]
  have read := readBraced?_eq_some_iff.mpr ⟨isName, shape.symm⟩
  rw [shape, replaceBraced, if_pos rfl]
  split
  · rename_i read'
    rw [read] at read'
    cases read'
    rfl
  · rename_i read'
    rw [read] at read'
    cases read'

/-- Without a dollar sign nothing is replaced. -/
theorem replaceBraced_append {before : List Char} (plain : '$' ∉ before) (after : List Char) :
    replaceBraced environment (before ++ after) = before ++ replaceBraced environment after := by
  induction before with
  | nil => rfl
  | cons c before ih =>
      rw [List.mem_cons, not_or] at plain
      rw [List.cons_append, List.cons_append, replaceBraced_of_ne (Ne.symm plain.1), ih plain.2]

theorem replaceBare_of_ne {c : Char} (other : c ≠ '$') (rest : List Char) :
    replaceBare environment (c :: rest) = c :: replaceBare environment rest := by
  rw [replaceBare, if_neg other]

theorem replaceBare_dollar {rest : List Char} (unread : readBare? rest = none) :
    replaceBare environment ('$' :: rest) = '$' :: replaceBare environment rest := by
  rw [replaceBare, if_pos rfl]
  split
  · rename_i read
    rw [unread] at read
    cases read
  · rfl

theorem replaceBare_of_some {cs name rest : List Char} (read : readBare? cs = some (name, rest)) :
    replaceBare environment ('$' :: cs) =
      expansion environment name ('$' :: name) ++ replaceBare environment rest := by
  rw [replaceBare, if_pos rfl]
  split
  · rename_i read'
    rw [read] at read'
    cases read'
    rfl
  · rename_i read'
    rw [read] at read'
    cases read'

/-- No dollar sign in the text can begin a bare reference, whatever follows the text. -/
def Inert (cs : List Char) : Prop :=
  ∀ front rest, cs = front ++ '$' :: rest → ∃ c tail, rest = c :: tail ∧ isNameStart c = false

namespace Inert

variable {cs : List Char}

theorem of_not_mem (plain : '$' ∉ cs) : Inert cs := by
  rintro front rest rfl
  exact absurd (List.mem_append_right front List.mem_cons_self) plain

theorem tail {c : Char} (inert : Inert (c :: cs)) : Inert cs :=
  fun front rest split => inert (c :: front) rest (congrArg (List.cons c) split)

/-- References in braces are not read again. -/
theorem braced {name : List Char} (isName : IsName name) : Inert (braced name) := by
  intro front rest split
  have shape : Substitution.braced name = '$' :: '\x7b' :: (name ++ ['\x7d']) := by
    simp [Substitution.braced]
  rw [shape] at split
  cases front with
  | nil =>
      cases split
      exact ⟨_, _, rfl, by decide⟩
  | cons c front =>
      have mem : '$' ∈ '\x7b' :: (name ++ ['\x7d']) := by
        rw [(List.cons.inj split).2]
        exact List.mem_append_right front List.mem_cons_self
      simp only [List.mem_cons, List.mem_append, List.not_mem_nil, or_false] at mem
      rcases mem with same | mem | same
      · cases same
      · exact absurd mem isName.dollar_not_mem
      · cases same

end Inert

/-- A text that begins no reference is copied. -/
theorem replaceBare_append {before : List Char} (inert : Inert before) (after : List Char) :
    replaceBare environment (before ++ after) = before ++ replaceBare environment after := by
  induction before with
  | nil => rfl
  | cons c before ih =>
      rw [List.cons_append, List.cons_append]
      by_cases dollar : c = '$'
      · subst dollar
        obtain ⟨d, tail, rfl, notStart⟩ := inert [] before rfl
        have unread : readBare? (d :: tail ++ after) = none := by
          simp only [List.cons_append, readBare?, readName?, notStart, Bool.false_eq_true, if_false]
        rw [replaceBare_dollar unread, ih inert.tail]
      · rw [replaceBare_of_ne dollar, ih inert.tail]

/-! ## Values that are not read again -/

/-- The text ends in a dollar sign, or in a bare name behind one: a word character could go on from
there. -/
def Open (front : List Char) : Prop :=
  ∃ before name, front = before ++ '$' :: name ∧ ∀ c ∈ name, isNameChar c = true

/-- Every value that takes the place of a name in braces begins no reference, and goes on with none
that is open before it. -/
def Separate (environment : Environment) (content : List Char) : Prop :=
  ∀ front name rest value, content = front ++ (braced name ++ rest) → IsName name →
    environment.value? (String.ofList name) = some value →
    Inert value.toList ∧
      (Open front → ∃ c tail, value.toList = c :: tail ∧ isWordChar c = false)

theorem Separate.inside {before after : List Char}
    (separate : Separate environment (before ++ after)) (front : List Char)
    {name rest : List Char} {value : String} (split : after = front ++ (braced name ++ rest))
    (isName : IsName name)
    (set : environment.value? (String.ofList name) = some value) :
    Inert value.toList ∧
      (Open (before ++ front) → ∃ c tail, value.toList = c :: tail ∧ isWordChar c = false) :=
  separate (before ++ front) name rest value (by rw [split, List.append_assoc]) isName set

/-- Behind an open reference, what follows begins with a word character before the first pass
exactly if it does so afterwards, and likewise with one that names can contain. -/
theorem startsWith_replaceBraced {front cs : List Char} (opened : Open front)
    (separate : Separate environment (front ++ cs)) {kind : Char → Bool}
    (word : ∀ c, kind c = true → isWordChar c = true) :
    StartsWith kind (replaceBraced environment cs) ↔ StartsWith kind cs := by
  have dollar : ∀ rest, ¬ StartsWith kind ('$' :: rest) := by
    rintro rest ⟨c, rest', same, holds⟩
    cases same
    exact absurd (word _ holds) (by decide)
  cases cs with
  | nil =>
      rw [replaceBraced]
  | cons c rest =>
      by_cases isDollar : c = '$'
      · subst isDollar
        refine iff_of_false ?_ (dollar rest)
        cases read : readBraced? rest with
        | none =>
            rw [replaceBraced_dollar read]
            exact dollar _
        | some found =>
            obtain ⟨name, tail⟩ := found
            obtain ⟨isName, same⟩ := readBraced?_eq_some_iff.mp read
            rw [same, replaceBraced_braced isName, expansion]
            cases set : environment.value? (String.ofList name) with
            | none => exact dollar _
            | some value =>
                obtain ⟨-, apart⟩ := separate.inside [] same isName set
                rw [List.append_nil] at apart
                obtain ⟨c, tail', begins, notWord⟩ := apart opened
                rintro ⟨d, rest', same, holds⟩
                simp only [begins, List.cons_append] at same
                cases same
                rw [word _ holds] at notWord
                cases notWord
      · rw [replaceBraced_of_ne isDollar]
        constructor <;>
        · rintro ⟨d, rest', same, holds⟩
          cases same
          exact ⟨c, _, rfl, holds⟩

/-- The first pass neither makes nor breaks a bare reference. -/
theorem readBare?_replaceBraced {front rest : List Char}
    (separate : Separate environment (front ++ '$' :: rest)) :
    readBare? (replaceBraced environment rest) =
      (readBare? rest).map fun (name, tail) => (name, replaceBraced environment tail) := by
  obtain ⟨name, tail, rfl, chars, stops⟩ := exists_split rest
  have plain : '$' ∉ name := fun mem => absurd (chars _ mem) (by decide)
  have opened : Open (front ++ '$' :: name) := ⟨front, name, rfl, chars⟩
  have separate' : Separate environment ((front ++ '$' :: name) ++ tail) := by
    rw [List.append_assoc]
    exact separate
  have stops' : ¬ StartsWith isNameChar (replaceBraced environment tail) :=
    mt (startsWith_replaceBraced opened separate' fun _ => isWordChar_of_isNameChar).mp stops
  have same : StartsWith isWordChar (replaceBraced environment tail) ↔ StartsWith isWordChar tail :=
    startsWith_replaceBraced opened separate' fun _ holds => holds
  obtain ⟨found, lost⟩ := readBare?_append chars stops
  obtain ⟨found', lost'⟩ := readBare?_append chars stops'
  rw [replaceBraced_append plain]
  by_cases fails : ¬ IsName name ∨ StartsWith isWordChar tail
  · rw [lost fails, lost' (fails.imp_right same.mpr), Option.map_none]
  · rw [not_or, not_not] at fails
    rw [found fails.1 fails.2, found' fails.1 (mt same.mp fails.2), Option.map_some]

/-- The invariant of the pass: what is left of the text, with what came before it, keeps its values
apart. -/
theorem replaceBare_replaceBraced {front cs : List Char}
    (separate : Separate environment (front ++ cs)) :
    replaceBare environment (replaceBraced environment cs) = replaceOnce environment cs := by
  induction size : cs.length using Nat.strongRecOn generalizing front cs with
  | ind n ih =>
      have next : ∀ written {rest}, cs = written ++ rest → written ≠ [] →
          replaceBare environment (replaceBraced environment rest) =
            replaceOnce environment rest := by
        rintro written rest rfl something
        have shorter := List.length_pos_iff.mpr something
        rw [List.length_append] at size
        have separate' : Separate environment ((front ++ written) ++ rest) := by
          rw [List.append_assoc]
          exact separate
        exact ih rest.length (by omega) separate' rfl
      cases found : reference? cs with
      | some reference =>
          obtain ⟨name, written, rest⟩ := reference
          obtain ⟨split, reference⟩ := reference?_eq_some_iff.mp found
          rw [replaceOnce_of_some found]
          cases reference with
          | braced isName =>
              have inert : Inert (expansion environment name (braced name)) := by
                rw [expansion]
                cases set : environment.value? (String.ofList name) with
                | none => exact .braced isName
                | some value => exact (separate.inside [] split isName set).1
              rw [split, replaceBraced_braced isName, replaceBare_append inert,
                next _ split (by simp [braced])]
          | bare isName apart =>
              rw [List.cons_append] at split
              subst split
              have read := readBare?_eq_some_iff.mpr ⟨rfl, isName, apart⟩
              have read' := readBare?_replaceBraced separate
              rw [read, Option.map_some] at read'
              have unbraced := readBraced?_of_isName isName rest
              rw [replaceBraced_dollar unbraced, replaceBare_of_some read',
                next ('$' :: name) rfl (List.cons_ne_nil _ _)]
      | none =>
          cases cs with
          | nil => rw [replaceBraced, replaceBare, replaceOnce_nil]
          | cons c rest =>
              have rest' := next [c] rfl (List.cons_ne_nil _ _)
              rw [replaceOnce_of_none found]
              by_cases dollar : c = '$'
              · subst dollar
                have unbraced : readBraced? rest = none := by
                  cases read : readBraced? rest with
                  | none => rfl
                  | some other => simp [reference?, read] at found
                have unread : readBare? rest = none := by
                  simpa [reference?, unbraced] using found
                have unread' := readBare?_replaceBraced separate
                rw [unread, Option.map_none] at unread'
                rw [replaceBraced_dollar unbraced, replaceBare_dollar unread', rest']
              · rw [replaceBraced_of_ne dollar, replaceBare_of_ne dollar, rest']

/-- Without a dollar sign a text stays as it is. -/
theorem substitute_of_not_mem {text : String} (plain : '$' ∉ text.toList) :
    substitute environment text = text := by
  have first : replaceBraced environment (text.toList ++ []) = text.toList ++ _ :=
    replaceBraced_append plain []
  have second : replaceBare environment (text.toList ++ []) = text.toList ++ _ :=
    replaceBare_append (.of_not_mem plain) []
  rw [replaceBraced, List.append_nil] at first
  rw [replaceBare, List.append_nil] at second
  rw [substitute, first, second, String.ofList_toList]

/-- A bare name alone gives the value of its variable. -/
theorem substitute_bare {name : List Char} (isName : IsName name) :
    substitute environment (String.ofList ('$' :: name)) =
      String.ofList (expansion environment name ('$' :: name)) := by
  have unchanged : replaceBraced environment ('$' :: name) = '$' :: name := by
    have unbraced := readBraced?_of_isName isName []
    have plain : replaceBraced environment (name ++ []) = name ++ _ :=
      replaceBraced_append isName.dollar_not_mem []
    rw [List.append_nil] at unbraced plain
    rw [replaceBraced_dollar unbraced, plain, replaceBraced, List.append_nil]
  have read : readBare? name = some (name, []) := by
    apply readBare?_eq_some_iff.mpr
    refine ⟨(List.append_nil name).symm, isName, ?_⟩
    rintro ⟨c, rest, same, -⟩
    cases same
  rw [substitute, String.toList_ofList, unchanged, replaceBare_of_some read, replaceBare,
    List.append_nil]

/-- A name in braces alone gives the value of its variable too, but read again for bare names. -/
theorem substitute_braced {name : List Char} (isName : IsName name) :
    substitute environment (String.ofList (braced name)) =
      String.ofList (replaceBare environment (expansion environment name (braced name))) := by
  have first : replaceBraced environment (braced name ++ []) = _ ++ replaceBraced environment [] :=
    replaceBraced_braced isName []
  rw [replaceBraced, List.append_nil, List.append_nil] at first
  rw [substitute, String.toList_ofList, first]

/-- The two ways to refer to a variable agree where its value begins no reference. -/
theorem substitute_braced_eq_bare {name : List Char} {value : String} (isName : IsName name)
    (set : environment.value? (String.ofList name) = some value) (inert : Inert value.toList) :
    substitute environment (String.ofList (braced name)) =
      substitute environment (String.ofList ('$' :: name)) := by
  have copied : replaceBare environment (value.toList ++ []) = value.toList ++ _ :=
    replaceBare_append inert []
  rw [replaceBare, List.append_nil] at copied
  rw [substitute_braced isName, substitute_bare isName]
  simp only [expansion, set, copied]

/-- Values without a dollar sign that begin with no word character are kept apart in every text, as
paths are. -/
theorem Separate.of_values {content : List Char}
    (values : ∀ name value, environment.value? name = some value →
      '$' ∉ value.toList ∧ ∃ c tail, value.toList = c :: tail ∧ isWordChar c = false) :
    Separate environment content := by
  intro front name rest value split isName set
  obtain ⟨plain, begins⟩ := values _ _ set
  exact ⟨.of_not_mem plain, fun _ => begins⟩

/-- Where no value is read again, the substitution replaces each reference of the text once. -/
theorem substitute_eq_replaceOnce {text : String} (separate : Separate environment text.toList) :
    substitute environment text = String.ofList (replaceOnce environment text.toList) := by
  have separate' : Separate environment ([] ++ text.toList) := separate
  rw [substitute, replaceBare_replaceBraced separate']

theorem substitute_eq_replaceOnce_of_a_directory :
    Separate [("DIR", "/opt")] "$DIR$\x7bDIR\x7d/ts.wasm".toList ∧
      substitute [("DIR", "/opt")] "$DIR$\x7bDIR\x7d/ts.wasm" = "/opt/opt/ts.wasm" := by
  have separate : Separate [("DIR", "/opt")] "$DIR$\x7bDIR\x7d/ts.wasm".toList := by
    apply Separate.of_values
    intro name value set
    rw [Environment.value?, List.lookup_cons] at set
    split at set
    · cases set
      exact ⟨by decide, '/', ['o', 'p', 't'], by decide, by decide⟩
    · cases set
  refine ⟨separate, ?_⟩
  rw [substitute_eq_replaceOnce separate]
  decide +kernel

/-- A value that takes the place of a name in braces becomes part of the bare name before it. -/
theorem substitute_joins_value :
    substitute [("A", "x"), ("B", "y")] "$A$\x7bB\x7d" = "$Ay" ∧
      String.ofList (replaceOnce [("A", "x"), ("B", "y")] "$A$\x7bB\x7d".toList) = "xy" := by
  decide +kernel

end Substitution

end FormatterHost
