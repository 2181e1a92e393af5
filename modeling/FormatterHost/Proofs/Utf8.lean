import FormatterHost.Bytes.Utf8

/-!
# Exactness of UTF-8

Strict decoding accepts a byte string exactly when it is the encoding of a text, and then answers
that text.  A character takes one to four bytes, so each direction is an argument about four forms;
the second byte of a long form decides whether the form is overlong, a surrogate or out of range.
-/

namespace FormatterHost.Utf8

/-! ## Bytes and numbers -/

theorem toNat_ofNat {value : Nat} (valid : value.isValidChar) :
    (Char.ofNat value).val.toNat = value := by
  rw [Char.ofNat, dif_pos valid]
  rfl

theorem toNat_ofNat_of_lt {n : Nat} (h : n < 256) : (UInt8.ofNat n).toNat = n := by
  rw [UInt8.toNat_ofNat']
  omega

theorem ofNat_eq_of_eq {n : Nat} (byte : UInt8) (h : n = byte.toNat) : UInt8.ofNat n = byte := by
  rw [h, UInt8.ofNat_toNat]

theorem isContinuation_iff (byte : UInt8) :
    isContinuation byte = true ↔ 128 ≤ byte.toNat ∧ byte.toNat < 192 := by
  simp only [isContinuation, Bool.and_eq_true, decide_eq_true_eq, UInt8.le_iff_toNat_le,
    UInt8.reduceToNat]
  omega

theorem admitsSecond_iff (first second : UInt8) :
    admitsSecond first second = true ↔
      (128 ≤ second.toNat ∧ second.toNat < 192) ∧
      (first.toNat = 224 → 160 ≤ second.toNat) ∧ (first.toNat = 237 → second.toNat < 160) ∧
      (first.toNat = 240 → 144 ≤ second.toNat) ∧ (first.toNat = 244 → second.toNat < 144) := by
  simp only [admitsSecond, beq_iff_eq, ← UInt8.toNat_inj, UInt8.reduceToNat]
  split
  · simp only [Bool.and_eq_true, decide_eq_true_eq, UInt8.le_iff_toNat_le, UInt8.reduceToNat]
    omega
  split
  · simp only [Bool.and_eq_true, decide_eq_true_eq, UInt8.le_iff_toNat_le, UInt8.reduceToNat]
    omega
  split
  · simp only [Bool.and_eq_true, decide_eq_true_eq, UInt8.le_iff_toNat_le, UInt8.reduceToNat]
    omega
  split
  · simp only [Bool.and_eq_true, decide_eq_true_eq, UInt8.le_iff_toNat_le, UInt8.reduceToNat]
    omega
  · rw [isContinuation_iff]
    omega

/-! ## The four forms -/

theorem head_of_one {b₀ : UInt8} (rest : Bytes) (lead : b₀.toNat < 128) :
    head (b₀ :: rest) = .scalar (Char.ofNat b₀.toNat) rest := by
  simp only [head, UInt8.lt_iff_toNat_lt, UInt8.reduceToNat]
  rw [if_pos lead]

theorem head_of_two {b₀ b₁ : UInt8} (rest : Bytes) (lead : 194 ≤ b₀.toNat ∧ b₀.toNat < 224)
    (second : isContinuation b₁ = true) :
    head (b₀ :: b₁ :: rest) = .scalar (assemble (b₀.toNat % 32) [b₁]) rest := by
  simp only [head, UInt8.lt_iff_toNat_lt, UInt8.reduceToNat]
  rw [if_neg (by omega), if_neg (by omega), if_pos lead.2, if_pos second]

theorem head_of_three {b₀ b₁ b₂ : UInt8} (rest : Bytes)
    (lead : 224 ≤ b₀.toNat ∧ b₀.toNat < 240)
    (second : admitsSecond b₀ b₁ = true) (third : isContinuation b₂ = true) :
    head (b₀ :: b₁ :: b₂ :: rest) = .scalar (assemble (b₀.toNat % 16) [b₁, b₂]) rest := by
  simp only [head, UInt8.lt_iff_toNat_lt, UInt8.reduceToNat]
  rw [if_neg (by omega), if_neg (by omega), if_neg (by omega), if_pos lead.2, if_pos second,
    if_pos third]

theorem head_of_four {b₀ b₁ b₂ b₃ : UInt8} (rest : Bytes)
    (lead : 240 ≤ b₀.toNat ∧ b₀.toNat < 245)
    (second : admitsSecond b₀ b₁ = true) (third : isContinuation b₂ = true)
    (fourth : isContinuation b₃ = true) :
    head (b₀ :: b₁ :: b₂ :: b₃ :: rest) =
      .scalar (assemble (b₀.toNat % 8) [b₁, b₂, b₃]) rest := by
  simp only [head, UInt8.lt_iff_toNat_lt, UInt8.reduceToNat]
  rw [if_neg (by omega), if_neg (by omega), if_neg (by omega), if_neg (by omega),
    if_pos lead.2, if_pos second, if_pos third, if_pos fourth]

/-- A character is read from one of four forms. -/
theorem head_scalar_cases {bytes rest : Bytes} {c : Char} (h : head bytes = .scalar c rest) :
    (∃ b₀, bytes = b₀ :: rest ∧ b₀.toNat < 128 ∧ c = Char.ofNat b₀.toNat) ∨
    (∃ b₀ b₁, bytes = b₀ :: b₁ :: rest ∧ (194 ≤ b₀.toNat ∧ b₀.toNat < 224) ∧
      isContinuation b₁ = true ∧ c = assemble (b₀.toNat % 32) [b₁]) ∨
    (∃ b₀ b₁ b₂, bytes = b₀ :: b₁ :: b₂ :: rest ∧ (224 ≤ b₀.toNat ∧ b₀.toNat < 240) ∧
      admitsSecond b₀ b₁ = true ∧ isContinuation b₂ = true ∧
      c = assemble (b₀.toNat % 16) [b₁, b₂]) ∨
    (∃ b₀ b₁ b₂ b₃, bytes = b₀ :: b₁ :: b₂ :: b₃ :: rest ∧
      (240 ≤ b₀.toNat ∧ b₀.toNat < 245) ∧
      admitsSecond b₀ b₁ = true ∧ isContinuation b₂ = true ∧ isContinuation b₃ = true ∧
      c = assemble (b₀.toNat % 8) [b₁, b₂, b₃]) := by
  simp only [head, UInt8.lt_iff_toNat_lt, UInt8.reduceToNat] at h
  repeat' split at h
  all_goals cases h
  · exact .inl ⟨_, rfl, ‹_›, rfl⟩
  · exact .inr (.inl ⟨_, _, rfl, by omega, ‹_›, rfl⟩)
  · exact .inr (.inr (.inl ⟨_, _, _, rfl, by omega, ‹_›, ‹_›, rfl⟩))
  · exact .inr (.inr (.inr ⟨_, _, _, _, rfl, by omega, ‹_›, ‹_›, ‹_›, rfl⟩))

/-- Reading undoes writing, whatever follows. -/
theorem head_encodeChar_append (c : Char) (rest : Bytes) :
    head (String.utf8EncodeChar c ++ rest) = .scalar c rest := by
  have valid : c.val.toNat < 55296 ∨ 57343 < c.val.toNat ∧ c.val.toNat < 1114112 := c.valid
  have same : Char.ofNat c.val.toNat = c := Char.ofNat_toNat c
  rw [String.utf8EncodeChar]
  by_cases one : c.val.toNat ≤ 127
  · have value : (UInt8.ofNat c.val.toNat).toNat = c.val.toNat := toNat_ofNat_of_lt (by omega)
    rw [if_pos one, List.singleton_append, head_of_one rest (by omega), value, same]
  by_cases two : c.val.toNat ≤ 2047
  · have first := toNat_ofNat_of_lt (n := c.val.toNat / 64 % 32 + 192) (by omega)
    have second := toNat_ofNat_of_lt (n := c.val.toNat % 64 + 128) (by omega)
    rw [if_neg one, if_pos two, List.cons_append, List.singleton_append,
      head_of_two rest (by omega) ((isContinuation_iff _).mpr (by omega))]
    have value : assemble ((UInt8.ofNat (c.val.toNat / 64 % 32 + 192)).toNat % 32)
        [UInt8.ofNat (c.val.toNat % 64 + 128)] = Char.ofNat c.val.toNat := by
      simp only [assemble, List.foldl_cons, List.foldl_nil, first, second]
      congr 1
      omega
    rw [value, same]
  by_cases three : c.val.toNat ≤ 65535
  · have first := toNat_ofNat_of_lt (n := c.val.toNat / 4096 % 16 + 224) (by omega)
    have second := toNat_ofNat_of_lt (n := c.val.toNat / 64 % 64 + 128) (by omega)
    have third := toNat_ofNat_of_lt (n := c.val.toNat % 64 + 128) (by omega)
    rw [if_neg one, if_neg two, if_pos three, List.cons_append, List.cons_append,
      List.singleton_append, head_of_three rest (by omega) ((admitsSecond_iff _ _).mpr (by omega))
        ((isContinuation_iff _).mpr (by omega))]
    have value : assemble ((UInt8.ofNat (c.val.toNat / 4096 % 16 + 224)).toNat % 16)
        [UInt8.ofNat (c.val.toNat / 64 % 64 + 128), UInt8.ofNat (c.val.toNat % 64 + 128)] =
          Char.ofNat c.val.toNat := by
      simp only [assemble, List.foldl_cons, List.foldl_nil, first, second, third]
      congr 1
      omega
    rw [value, same]
  · have first := toNat_ofNat_of_lt (n := c.val.toNat / 262144 % 8 + 240) (by omega)
    have second := toNat_ofNat_of_lt (n := c.val.toNat / 4096 % 64 + 128) (by omega)
    have third := toNat_ofNat_of_lt (n := c.val.toNat / 64 % 64 + 128) (by omega)
    have fourth := toNat_ofNat_of_lt (n := c.val.toNat % 64 + 128) (by omega)
    rw [if_neg one, if_neg two, if_neg three, List.cons_append, List.cons_append,
      List.cons_append, List.singleton_append, head_of_four rest (by omega)
        ((admitsSecond_iff _ _).mpr (by omega)) ((isContinuation_iff _).mpr (by omega))
        ((isContinuation_iff _).mpr (by omega))]
    have value : assemble ((UInt8.ofNat (c.val.toNat / 262144 % 8 + 240)).toNat % 8)
        [UInt8.ofNat (c.val.toNat / 4096 % 64 + 128), UInt8.ofNat (c.val.toNat / 64 % 64 + 128),
          UInt8.ofNat (c.val.toNat % 64 + 128)] = Char.ofNat c.val.toNat := by
      simp only [assemble, List.foldl_cons, List.foldl_nil, first, second, third, fourth]
      congr 1
      omega
    rw [value, same]

/-- What is read is what would be written. -/
theorem eq_encodeChar_append {bytes rest : Bytes} {c : Char} (h : head bytes = .scalar c rest) :
    bytes = String.utf8EncodeChar c ++ rest := by
  obtain ⟨b₀, rfl, lead, rfl⟩ | ⟨b₀, b₁, rfl, lead, second, rfl⟩ |
    ⟨b₀, b₁, b₂, rfl, lead, second, third, rfl⟩ |
    ⟨b₀, b₁, b₂, b₃, rfl, lead, second, third, fourth, rfl⟩ := head_scalar_cases h
  · have value : (Char.ofNat b₀.toNat).val.toNat = b₀.toNat := toNat_ofNat (.inl (by omega))
    rw [String.utf8EncodeChar, value, if_pos (by omega), UInt8.ofNat_toNat, List.singleton_append]
  · rw [isContinuation_iff] at second
    simp only [assemble, List.foldl_cons, List.foldl_nil]
    have value : (Char.ofNat (b₀.toNat % 32 * 64 + b₁.toNat % 64)).val.toNat =
        b₀.toNat % 32 * 64 + b₁.toNat % 64 := toNat_ofNat (.inl (by omega))
    rw [String.utf8EncodeChar, value, if_neg (by omega), if_pos (by omega),
      ofNat_eq_of_eq b₀ (by omega), ofNat_eq_of_eq b₁ (by omega)]
    rfl
  · rw [admitsSecond_iff] at second
    rw [isContinuation_iff] at third
    simp only [assemble, List.foldl_cons, List.foldl_nil]
    have value :
        (Char.ofNat ((b₀.toNat % 16 * 64 + b₁.toNat % 64) * 64 + b₂.toNat % 64)).val.toNat =
          (b₀.toNat % 16 * 64 + b₁.toNat % 64) * 64 + b₂.toNat % 64 :=
      toNat_ofNat (by simp only [Nat.isValidChar]; omega)
    rw [String.utf8EncodeChar, value, if_neg (by omega), if_neg (by omega), if_pos (by omega),
      ofNat_eq_of_eq b₀ (by omega), ofNat_eq_of_eq b₁ (by omega),
      ofNat_eq_of_eq b₂ (by omega)]
    rfl
  · rw [admitsSecond_iff] at second
    rw [isContinuation_iff] at third fourth
    simp only [assemble, List.foldl_cons, List.foldl_nil]
    have value : (Char.ofNat (((b₀.toNat % 8 * 64 + b₁.toNat % 64) * 64 + b₂.toNat % 64) * 64 +
        b₃.toNat % 64)).val.toNat =
        ((b₀.toNat % 8 * 64 + b₁.toNat % 64) * 64 + b₂.toNat % 64) * 64 + b₃.toNat % 64 :=
      toNat_ofNat (by simp only [Nat.isValidChar]; omega)
    rw [String.utf8EncodeChar, value, if_neg (by omega), if_neg (by omega), if_neg (by omega),
      ofNat_eq_of_eq b₀ (by omega), ofNat_eq_of_eq b₁ (by omega),
      ofNat_eq_of_eq b₂ (by omega), ofNat_eq_of_eq b₃ (by omega)]
    rfl

/-! ## Whole texts -/

theorem eq_nil_of_head_ended {bytes : Bytes} (h : head bytes = .ended) : bytes = [] := by
  unfold head at h
  split at h
  · rfl
  · repeat' split at h
    all_goals cases h

theorem decodeFrom_nil (index : Nat) : decodeFrom index [] = .ok [] := by
  rw [decodeFrom]
  split
  · rfl
  all_goals rename_i h; cases h

theorem decodeFrom_of_scalar {index : Nat} {bytes rest : Bytes} {c : Char}
    (h : head bytes = .scalar c rest) :
    decodeFrom index bytes =
      (decodeFrom (index + (bytes.length - rest.length)) rest).map (c :: ·) := by
  rw [decodeFrom]
  split
  · rename_i h'
    rw [h] at h'
    cases h'
  · rename_i c' rest' h'
    obtain ⟨rfl, rfl⟩ := Head.scalar.inj (h.symm.trans h')
    cases decodeFrom (index + (bytes.length - rest.length)) rest <;> rfl
  · rename_i h'
    rw [h] at h'
    cases h'
  · rename_i h'
    rw [h] at h'
    cases h'

theorem decodeFrom_flatMap (text : List Char) (index : Nat) :
    decodeFrom index (text.flatMap String.utf8EncodeChar) = .ok text := by
  induction text generalizing index with
  | nil => exact decodeFrom_nil index
  | cons c cs ih =>
      rw [List.flatMap_cons, decodeFrom_of_scalar (head_encodeChar_append c _), ih]
      rfl

theorem eq_flatMap_of_decodeFrom {index : Nat} {bytes : Bytes} {text : List Char}
    (h : decodeFrom index bytes = .ok text) : bytes = text.flatMap String.utf8EncodeChar := by
  fun_induction decodeFrom index bytes generalizing text with
  | case1 index bytes ended =>
      cases h
      exact eq_nil_of_head_ended ended
  | case2 index bytes c rest read shorter found decoded ih =>
      cases h
      rw [List.flatMap_cons, ← ih decoded]
      exact eq_encodeChar_append read
  | case3 => cases h
  | case4 => cases h
  | case5 => cases h

/-- Strict decoding accepts exactly the encodings, each as the text that it encodes. -/
theorem decode_eq_ok_iff (bytes : Bytes) (text : String) :
    decode bytes = .ok text ↔ bytes = encode text := by
  unfold decode encode
  constructor
  · intro h
    cases decoded : decodeFrom 0 bytes with
    | error fault =>
        rw [decoded] at h
        cases h
    | ok chars =>
        rw [decoded] at h
        cases h
        rw [String.toList_ofList]
        exact eq_flatMap_of_decodeFrom decoded
  · rintro rfl
    rw [decodeFrom_flatMap]
    simp only [Except.map, String.ofList_toList]

@[simp] theorem decode_encode (text : String) : decode (encode text) = .ok text :=
  (decode_eq_ok_iff _ _).mpr rfl

theorem decodeLossyChars_nil : decodeLossyChars [] = [] := by
  rw [decodeLossyChars]
  split
  · rfl
  all_goals rename_i h; cases h

theorem decodeLossyChars_of_scalar {bytes rest : Bytes} {c : Char}
    (h : head bytes = .scalar c rest) :
    decodeLossyChars bytes = c :: decodeLossyChars rest := by
  rw [decodeLossyChars]
  split
  · rename_i h'
    rw [h] at h'
    cases h'
  · rename_i c' rest' h'
    obtain ⟨rfl, rfl⟩ := Head.scalar.inj (h.symm.trans h')
    rfl
  · rename_i h'
    rw [h] at h'
    cases h'
  · rename_i h'
    rw [h] at h'
    cases h'

/-- Lenient decoding loses nothing of an encoded text. -/
@[simp] theorem decodeLossy_encode (text : String) : decodeLossy (encode text) = text := by
  have chars : ∀ cs : List Char, decodeLossyChars (cs.flatMap String.utf8EncodeChar) = cs := by
    intro cs
    induction cs with
    | nil => exact decodeLossyChars_nil
    | cons c cs ih =>
        rw [List.flatMap_cons, decodeLossyChars_of_scalar (head_encodeChar_append c _), ih]
  rw [decodeLossy, encode, chars, String.ofList_toList]

/-- No character takes more than four bytes. -/
theorem length_encode_le (text : String) : (encode text).length ≤ 4 * text.toList.length := by
  rw [encode, List.length_flatMap]
  induction text.toList with
  | nil => exact Nat.le_refl 0
  | cons c cs ih =>
      have one : (String.utf8EncodeChar c).length ≤ 4 := by
        rw [String.length_utf8EncodeChar]
        exact c.utf8Size_le_four
      rw [List.map_cons, List.sum_cons, List.length_cons]
      omega

end FormatterHost.Utf8
