import FormatterHost.Text.Word

/-!
# References to the environment

A settings document may refer to environment variables, by a name in braces behind a dollar sign or,
where no word character follows, by a bare name behind it.  All references in braces are replaced
first, then the bare ones in the result. References to variables that are not set stay as they are
written.
-/

namespace FormatterHost

/-- The variables of an environment with their values. -/
abbrev Environment := List (String × String)

namespace Environment

/-- The value of a variable. -/
def value? (environment : Environment) (name : String) : Option String :=
  environment.lookup name

end Environment

namespace Substitution

/-- Whether a name can start with a character. -/
def isNameStart (c : Char) : Bool :=
  c.isAlpha || c == '_'

/-- Whether a name can contain a character. -/
def isNameChar (c : Char) : Bool :=
  isNameStart c || c.isDigit

/-- The longest name at the start of a text, and what follows it. -/
def readName? : List Char → Option (List Char × List Char)
  | [] => none
  | c :: cs =>
    if isNameStart c then some (c :: cs.takeWhile isNameChar, cs.dropWhile isNameChar) else none

/-- Reads a name in braces, behind the dollar sign. -/
def readBraced? : List Char → Option (List Char × List Char)
  | '\x7b' :: cs =>
    match readName? cs with
    | some (name, '\x7d' :: rest) => some (name, rest)
    | _ => none
  | _ => none

/-- Reads a bare name, behind the dollar sign. -/
def readBare? (cs : List Char) : Option (List Char × List Char) :=
  match readName? cs with
  | some (name, []) => some (name, [])
  | some (name, c :: rest) => if Text.isWordChar c then none else some (name, c :: rest)
  | none => none

theorem length_lt_of_readName? {cs name rest : List Char} (h : readName? cs = some (name, rest)) :
    rest.length < cs.length := by
  unfold readName? at h
  split at h
  · simp at h
  · rename_i c tail
    split at h
    · simp only [Option.some.injEq, Prod.mk.injEq] at h
      have shorter := (List.dropWhile_sublist (p := isNameChar) (l := tail)).length_le
      rw [← h.2, List.length_cons]
      omega
    · simp at h

theorem length_lt_of_readBraced? {cs name rest : List Char}
    (h : readBraced? cs = some (name, rest)) : rest.length < cs.length := by
  unfold readBraced? at h
  split at h
  · split at h
    · rename_i found
      have := length_lt_of_readName? found
      simp only [Option.some.injEq, Prod.mk.injEq] at h
      simp only [← h.2, List.length_cons] at this ⊢
      omega
    · simp at h
  · simp at h

theorem length_lt_of_readBare? {cs name rest : List Char}
    (h : readBare? cs = some (name, rest)) : rest.length < cs.length := by
  unfold readBare? at h
  split at h
  · rename_i found
    have := length_lt_of_readName? found
    simp only [Option.some.injEq, Prod.mk.injEq] at h
    rw [← h.2]
    exact this
  · rename_i found
    have := length_lt_of_readName? found
    split at h
    · simp at h
    · simp only [Option.some.injEq, Prod.mk.injEq] at h
      rw [← h.2]
      exact this
  · simp at h

/-- What stands for a reference: the value of the variable, or the reference itself. -/
def expansion (environment : Environment) (name written : List Char) : List Char :=
  match environment.value? (String.ofList name) with
  | some value => value.toList
  | none => written

/-- Replaces the references in braces. -/
def replaceBraced (environment : Environment) (cs : List Char) : List Char :=
  match cs with
  | [] => []
  | c :: rest =>
    if c = '$' then
      match h : readBraced? rest with
      | some (name, tail) =>
        have := length_lt_of_readBraced? h
        expansion environment name (['$', '\x7b'] ++ name ++ ['\x7d'])
          ++ replaceBraced environment tail
      | none => c :: replaceBraced environment rest
    else c :: replaceBraced environment rest
termination_by cs.length

/-- Replaces the bare references. -/
def replaceBare (environment : Environment) (cs : List Char) : List Char :=
  match cs with
  | [] => []
  | c :: rest =>
    if c = '$' then
      match h : readBare? rest with
      | some (name, tail) =>
        have := length_lt_of_readBare? h
        expansion environment name ('$' :: name) ++ replaceBare environment tail
      | none => c :: replaceBare environment rest
    else c :: replaceBare environment rest
termination_by cs.length

/-- The text with its references replaced. -/
def substitute (environment : Environment) (text : String) : String :=
  String.ofList (replaceBare environment (replaceBraced environment text.toList))

end Substitution

end FormatterHost
