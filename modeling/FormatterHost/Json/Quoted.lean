import FormatterHost.Bytes.Basic
import FormatterHost.Json.Reading

/-!
# Strings in JSON text

A string ends at the first quotation mark that no backslash precedes.  `skip` looks for that end and
checks the form of the escapes on its way; `decode` also asks what they mean, and finds surrogates
that do not form a pair.
-/

namespace FormatterHost.Json

/-- The number of bytes that characters take in UTF-8. -/
def utf8Size (cs : List Char) : Nat :=
  cs.foldl (fun size c => size + c.utf8Size) 0

/-- Four hexadecimal digits.  Where fewer than four bytes are left, the text has ended too early. -/
def hexEscape : List Char → Except Fault (Nat × List Char)
  | a :: b :: c :: d :: rest =>
    match Bytes.hexValue? a, Bytes.hexValue? b, Bytes.hexValue? c, Bytes.hexValue? d with
    | some a, some b, some c, some d => .ok (((a * 16 + b) * 16 + c) * 16 + d, rest)
    | _, _, _, _ => .error .malformed
  | cs => .error (if utf8Size cs < 4 then .unfinished else .malformed)

theorem length_lt_of_hexEscape {cs rest : List Char} {value : Nat}
    (h : hexEscape cs = .ok (value, rest)) : rest.length < cs.length := by
  unfold hexEscape at h
  split at h
  · split at h <;> simp_all
    omega
  · simp at h

/-- The character that a single letter stands for behind a backslash. -/
def shortEscape? (c : Char) : Option Char :=
  if c = '"' then some '"'
  else if c = '\\' then some '\\'
  else if c = '/' then some '/'
  else if c = 'b' then some '\x08'
  else if c = 'f' then some '\x0c'
  else if c = 'n' then some '\n'
  else if c = 'r' then some '\r'
  else if c = 't' then some '\t'
  else none

/-- Whether a code unit is the first half of a pair. -/
def isLeading (unit : Nat) : Bool :=
  0xD800 ≤ unit && unit < 0xDC00

/-- Whether a code unit is the second half of a pair. -/
def isTrailing (unit : Nat) : Bool :=
  0xDC00 ≤ unit && unit < 0xE000

/-- The second half of a pair, of which `leading` is the first. -/
def pairedEscape (leading : Nat) : List Char → Except Fault (Char × List Char)
  | [] => .error .unfinished
  | c :: cs =>
    if c = '\\' then
      match cs with
      | [] => .error .unfinished
      | d :: ds =>
        if d = 'u' then
          match hexEscape ds with
          | .error fault => .error fault
          | .ok (unit, rest) =>
            if isTrailing unit then
              .ok (Char.ofNat (0x10000 + (leading - 0xD800) * 0x400 + (unit - 0xDC00)), rest)
            else .error .malformed
        else .error .malformed
    else .error .malformed

/-- The character that an escape stands for; the backslash is already read. -/
def escape : List Char → Except Fault (Char × List Char)
  | [] => .error .unfinished
  | c :: cs =>
    if c = 'u' then
      match hexEscape cs with
      | .error fault => .error fault
      | .ok (unit, rest) =>
        if isTrailing unit then .error .malformed
        else if isLeading unit then pairedEscape unit rest
        else .ok (Char.ofNat unit, rest)
    else
      match shortEscape? c with
      | some meant => .ok (meant, cs)
      | none => .error .malformed

theorem length_lt_of_pairedEscape {leading : Nat} {cs rest : List Char} {c : Char}
    (h : pairedEscape leading cs = .ok (c, rest)) : rest.length < cs.length := by
  unfold pairedEscape at h
  repeat' split at h
  all_goals simp_all
  rename_i found _
  have := length_lt_of_hexEscape found
  omega

theorem length_lt_of_escape {cs rest : List Char} {c : Char}
    (h : escape cs = .ok (c, rest)) : rest.length < cs.length := by
  unfold escape at h
  split at h
  · simp at h
  · split at h
    · split at h
      · simp at h
      · rename_i found
        have first := length_lt_of_hexEscape found
        repeat' split at h
        · simp at h
        · have second := length_lt_of_pairedEscape h
          simp only [List.length_cons]
          omega
        · simp_all
          omega
    · split at h <;> simp_all

/-- The text up to the closing quotation mark, and what follows the mark. -/
def decode (cs : List Char) : Except Fault (List Char × List Char) :=
  match cs with
  | [] => .error .unfinished
  | c :: rest =>
    if c = '"' then .ok ([], rest)
    else if c = '\\' then
      match h : escape rest with
      | .error fault => .error fault
      | .ok (meant, rest') =>
        have := length_lt_of_escape h
        match decode rest' with
        | .error fault => .error fault
        | .ok (text, tail) => .ok (meant :: text, tail)
    else if c.toNat < 32 then .error .malformed
    else
      match decode rest with
      | .error fault => .error fault
      | .ok (text, tail) => .ok (c :: text, tail)
termination_by cs.length

/-- What follows the closing quotation mark.  Surrogates need not form pairs. -/
def skip (cs : List Char) : Except Fault (List Char) :=
  match cs with
  | [] => .error .unfinished
  | c :: rest =>
    if c = '"' then .ok rest
    else if c = '\\' then
      match rest with
      | [] => .error .unfinished
      | d :: ds =>
        if d = 'u' then
          match h : hexEscape ds with
          | .error fault => .error fault
          | .ok (_, rest') =>
            have := length_lt_of_hexEscape h
            skip rest'
        else if (shortEscape? d).isSome then skip ds
        else .error .malformed
    else if c.toNat < 32 then .error .malformed
    else skip rest
termination_by cs.length

/-- Reads a string behind its opening quotation mark. -/
def readString (cs : List Char) : Except Defect String × Option (List Char) :=
  match decode cs with
  | .ok (text, rest) => (.ok (String.ofList text), some rest)
  | .error fault =>
    match skip cs with
    | .ok rest => (.error ⟨fault, none⟩, some rest)
    | .error skipped => (.error ⟨fault, some skipped⟩, none)

end FormatterHost.Json
