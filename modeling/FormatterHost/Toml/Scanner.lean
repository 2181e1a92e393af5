import FormatterHost.Bytes.Basic
import FormatterHost.Number.Decimal

/-!
# Words of TOML

Blanks, comments, strings and keys.  Every reader answers what it has read and the text that
follows, or nothing where the text does not have the form.
-/

namespace FormatterHost.Toml

/-- Whether a character is a blank inside a line. -/
def isBlank (c : Char) : Bool :=
  c == ' ' || c == '\t'

/-- The text behind the blanks at its start. -/
def skipBlanks (cs : List Char) : List Char :=
  cs.dropWhile isBlank

/-- Whether a character may stand in a comment. -/
def isCommentChar (c : Char) : Bool :=
  c == '\t' || 128 ≤ c.toNat || (32 ≤ c.toNat && c.toNat < 127)

/-- A line end. -/
def lineEnd? : List Char → Option (List Char)
  | '\n' :: cs => some cs
  | '\r' :: '\n' :: cs => some cs
  | _ => none

/-- The text behind a comment, if it starts with one. -/
def skipComment : List Char → List Char
  | '#' :: cs => cs.dropWhile isCommentChar
  | cs => cs

/-- The text behind blanks, a comment and a line end; the end of the text ends a line, too. -/
def restOfLine? (cs : List Char) : Option (List Char) :=
  match skipComment (skipBlanks cs) with
  | [] => some []
  | cs => lineEnd? cs

/-- The text behind blanks, comments and line ends. -/
def skipLines : Nat → List Char → List Char
  | 0, cs => cs
  | fuel + 1, cs =>
    let rest := skipComment (skipBlanks cs)
    match lineEnd? rest with
    | some next => skipLines fuel next
    | none => rest

/-- A number of `count` hexadecimal digits. -/
def hexNumber? : (count value : Nat) → List Char → Option (Nat × List Char)
  | 0, value, cs => some (value, cs)
  | _ + 1, _, [] => none
  | count + 1, value, c :: cs =>
    match Bytes.hexValue? c with
    | some digit => hexNumber? count (value * 16 + digit) cs
    | none => none

/-- The character that an escape denotes; the backslash is already read. -/
def escape? : List Char → Option (Char × List Char)
  | 'b' :: cs => some ('\x08', cs)
  | 't' :: cs => some ('\t', cs)
  | 'n' :: cs => some ('\n', cs)
  | 'f' :: cs => some ('\x0c', cs)
  | 'r' :: cs => some ('\r', cs)
  | '"' :: cs => some ('"', cs)
  | '\\' :: cs => some ('\\', cs)
  | 'u' :: cs => code? (hexNumber? 4 0 cs)
  | 'U' :: cs => code? (hexNumber? 8 0 cs)
  | _ => none
where
  /-- The character of a code point. -/
  code? : Option (Nat × List Char) → Option (Char × List Char)
    | some (code, rest) => if code.isValidChar then some (Char.ofNat code, rest) else none
    | none => none

/-- Whether a character may stand unescaped in a string. -/
def isStringChar (c : Char) : Bool :=
  isCommentChar c

/-- A string on one line, behind its opening quotation mark. -/
def basicString? : Nat → List Char → Option (List Char × List Char)
  | 0, _ => none
  | _ + 1, [] => none
  | fuel + 1, c :: cs =>
    if c = '"' then some ([], cs)
    else if c = '\\' then do
      let (meant, rest) ← escape? cs
      let (text, tail) ← basicString? fuel rest
      return (meant :: text, tail)
    else if isStringChar c then do
      let (text, tail) ← basicString? fuel cs
      return (c :: text, tail)
    else none

/-- A literal string on one line, behind its opening apostrophe. -/
def literalString? : List Char → Option (List Char × List Char)
  | [] => none
  | c :: cs =>
    if c = '\'' then some ([], cs)
    else if isStringChar c then
      match literalString? cs with
      | some (text, tail) => some (c :: text, tail)
      | none => none
    else none

/-- The end of a string over several lines: three marks, before which up to two may belong to the
string. -/
def closing? (mark : Char) (cs : List Char) : Option (List Char × List Char) :=
  let count := (cs.takeWhile (· == mark)).length
  if 3 ≤ count then
    let kept := min (count - 3) 2
    some (List.replicate kept mark, cs.drop (kept + 3))
  else none

/-- The text behind blanks and line ends, of which there is at least one behind the blanks. -/
def continuation? (cs : List Char) : Option (List Char) :=
  match lineEnd? (skipBlanks cs) with
  | some rest => some (skip rest.length rest)
  | none => none
where
  /-- The text behind blanks and line ends. -/
  skip : Nat → List Char → List Char
    | 0, cs => cs
    | fuel + 1, cs =>
      let rest := skipBlanks cs
      match lineEnd? rest with
      | some next => skip fuel next
      | none => rest

/-- A string over several lines, behind its opening marks. -/
def longBasicString? : Nat → List Char → Option (List Char × List Char)
  | 0, _ => none
  | _ + 1, [] => none
  | fuel + 1, c :: cs =>
    match closing? '"' (c :: cs) with
    | some (kept, tail) => some (kept, tail)
    | none =>
      if c = '\\' then
        match continuation? cs with
        | some rest => longBasicString? fuel rest
        | none => do
          let (meant, rest) ← escape? cs
          let (text, tail) ← longBasicString? fuel rest
          return (meant :: text, tail)
      else
        match lineEnd? (c :: cs) with
        | some rest => do
          let (text, tail) ← longBasicString? fuel rest
          return ('\n' :: text, tail)
        | none =>
          if isStringChar c then do
            let (text, tail) ← longBasicString? fuel cs
            return (c :: text, tail)
          else none

/-- A literal string over several lines, behind its opening marks. -/
def longLiteralString? : Nat → List Char → Option (List Char × List Char)
  | 0, _ => none
  | _ + 1, [] => none
  | fuel + 1, c :: cs =>
    match closing? '\'' (c :: cs) with
    | some (kept, tail) => some (kept, tail)
    | none =>
      match lineEnd? (c :: cs) with
      | some rest => do
        let (text, tail) ← longLiteralString? fuel rest
        return ('\n' :: text, tail)
      | none =>
        if isStringChar c then do
          let (text, tail) ← longLiteralString? fuel cs
          return (c :: text, tail)
        else none

/-- The text behind a line end, if it starts with one. -/
def skipLineEnd (cs : List Char) : List Char :=
  (lineEnd? cs).getD cs

/-- A string of any kind. -/
def string? : List Char → Option (String × List Char)
  | '"' :: '"' :: '"' :: cs => finish (longBasicString? (cs.length + 1) (skipLineEnd cs))
  | '\'' :: '\'' :: '\'' :: cs => finish (longLiteralString? (cs.length + 1) (skipLineEnd cs))
  | '"' :: cs => finish (basicString? (cs.length + 1) cs)
  | '\'' :: cs => finish (literalString? cs)
  | _ => none
where
  /-- The characters as text. -/
  finish : Option (List Char × List Char) → Option (String × List Char)
    | some (text, rest) => some (String.ofList text, rest)
    | none => none

/-- Whether a character may stand in a bare key. -/
def isBareKeyChar (c : Char) : Bool :=
  c.isAlphanum || c == '_' || c == '-'

/-- A key without dots. -/
def simpleKey? : List Char → Option (String × List Char)
  | '"' :: cs => string?.finish (basicString? (cs.length + 1) cs)
  | '\'' :: cs => string?.finish (literalString? cs)
  | cs =>
    match cs.takeWhile isBareKeyChar with
    | [] => none
    | key => some (String.ofList key, cs.dropWhile isBareKeyChar)

/-- The parts of a key, between which there are dots, and what follows them and blanks. -/
def dottedKey? : Nat → List Char → Option (List String × List Char)
  | 0, _ => none
  | fuel + 1, cs => do
    let (key, rest) ← simpleKey? (skipBlanks cs)
    match skipBlanks rest with
    | '.' :: rest => do
      let (keys, tail) ← dottedKey? fuel rest
      return (key :: keys, tail)
    | rest => return ([key], rest)

end FormatterHost.Toml
