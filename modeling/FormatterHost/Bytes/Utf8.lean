import FormatterHost.Bytes.Basic

/-!
# UTF-8

Text crosses the border to a plugin as UTF-8.  `head` reads one character and, where there is none,
says how many bytes form the longest start of a well-formed sequence.  Strict decoding reports the
first such place; lenient decoding puts the replacement character there and goes on.
-/

namespace FormatterHost.Utf8

/-- The UTF-8 form of a text. -/
def encode (text : String) : Bytes :=
  text.toList.flatMap String.utf8EncodeChar

/-- What stands at the start of a byte string. -/
inductive Head where
  | ended
  | scalar (c : Char) (rest : Bytes)
  /-- The first `width` bytes cannot start any sequence. -/
  | invalid (width : Nat) (rest : Bytes)
  /-- All remaining bytes start a sequence that is not finished. -/
  | incomplete
deriving Repr

/-- Continuation bytes carry six bits. -/
def isContinuation (byte : UInt8) : Bool :=
  0x80 ≤ byte && byte ≤ 0xBF

/-- Whether `second` may follow the lead byte `first` of a sequence of three or four bytes: overlong
forms, surrogates and values past the last code point are excluded. -/
def admitsSecond (first second : UInt8) : Bool :=
  if first == 0xE0 then 0xA0 ≤ second && second ≤ 0xBF
  else if first == 0xED then 0x80 ≤ second && second ≤ 0x9F
  else if first == 0xF0 then 0x90 ≤ second && second ≤ 0xBF
  else if first == 0xF4 then 0x80 ≤ second && second ≤ 0x8F
  else isContinuation second

/-- The character with lead bits `lead` and the given continuation bytes. -/
def assemble (lead : Nat) (continuations : List UInt8) : Char :=
  Char.ofNat (continuations.foldl (fun value byte => value * 64 + byte.toNat % 64) lead)

/-- Reads one character. -/
def head : Bytes → Head
  | [] => .ended
  | b₀ :: rest =>
    if b₀ < 0x80 then .scalar (Char.ofNat b₀.toNat) rest
    else if b₀ < 0xC2 then .invalid 1 rest
    else if b₀ < 0xE0 then
      match rest with
      | [] => .incomplete
      | b₁ :: rest₁ =>
        if isContinuation b₁ then .scalar (assemble (b₀.toNat % 32) [b₁]) rest₁
        else .invalid 1 rest
    else if b₀ < 0xF0 then
      match rest with
      | [] => .incomplete
      | b₁ :: rest₁ =>
        if admitsSecond b₀ b₁ then
          match rest₁ with
          | [] => .incomplete
          | b₂ :: rest₂ =>
            if isContinuation b₂ then .scalar (assemble (b₀.toNat % 16) [b₁, b₂]) rest₂
            else .invalid 2 rest₁
        else .invalid 1 rest
    else if b₀ < 0xF5 then
      match rest with
      | [] => .incomplete
      | b₁ :: rest₁ =>
        if admitsSecond b₀ b₁ then
          match rest₁ with
          | [] => .incomplete
          | b₂ :: rest₂ =>
            if isContinuation b₂ then
              match rest₂ with
              | [] => .incomplete
              | b₃ :: rest₃ =>
                if isContinuation b₃ then
                  .scalar (assemble (b₀.toNat % 8) [b₁, b₂, b₃]) rest₃
                else .invalid 3 rest₂
            else .invalid 2 rest₁
        else .invalid 1 rest
    else .invalid 1 rest

/-- Reading a character leaves fewer bytes. -/
theorem length_lt_of_head_scalar {bytes rest : Bytes} {c : Char}
    (h : head bytes = .scalar c rest) : rest.length < bytes.length := by
  unfold head at h
  split at h
  · simp at h
  · repeat' split at h
    all_goals simp_all
    all_goals omega

/-- Passing over an invalid start leaves fewer bytes. -/
theorem length_lt_of_head_invalid {bytes rest : Bytes} {width : Nat}
    (h : head bytes = .invalid width rest) : rest.length < bytes.length := by
  unfold head at h
  split at h
  · simp at h
  · repeat' split at h
    all_goals simp_all
    all_goals omega

/-- Why a byte string is not UTF-8: the bytes from `index` on have no reading. -/
inductive Fault where
  | invalid (index width : Nat)
  | incomplete (index : Nat)
deriving Repr, DecidableEq

/-- The report of a fault. -/
def Fault.message : Fault → String
  | .invalid index width => s!"invalid utf-8 sequence of {width} bytes from index {index}"
  | .incomplete index => s!"incomplete utf-8 byte sequence from index {index}"

/-- Strict decoding; `index` counts the bytes already read. -/
def decodeFrom (index : Nat) (bytes : Bytes) : Except Fault (List Char) :=
  match h : head bytes with
  | .ended => .ok []
  | .scalar c rest =>
    have := length_lt_of_head_scalar h
    match decodeFrom (index + (bytes.length - rest.length)) rest with
    | .ok text => .ok (c :: text)
    | .error fault => .error fault
  | .invalid width _ => .error (.invalid index width)
  | .incomplete => .error (.incomplete index)
termination_by bytes.length

/-- The text that the bytes encode, or the first place where they encode none. -/
def decode (bytes : Bytes) : Except Fault String :=
  (decodeFrom 0 bytes).map String.ofList

/-- Lenient decoding of the characters. -/
def decodeLossyChars (bytes : Bytes) : List Char :=
  match h : head bytes with
  | .ended => []
  | .scalar c rest =>
    have := length_lt_of_head_scalar h
    c :: decodeLossyChars rest
  | .invalid _ rest =>
    have := length_lt_of_head_invalid h
    '\uFFFD' :: decodeLossyChars rest
  | .incomplete => ['\uFFFD']
termination_by bytes.length

/-- Decoding with one replacement character for each place that has no reading. -/
def decodeLossy (bytes : Bytes) : String :=
  String.ofList (decodeLossyChars bytes)

end FormatterHost.Utf8
