import FormatterHost.Bytes.Utf8

/-!
# Nested expressions

The text format of modules is built from words, quoted byte strings and parentheses.  Comments run
to the end of the line behind two semicolons, or stand, possibly nested, between `(;` and `;)`.
-/

namespace FormatterHost.Wasm

/-- A token of the text format. -/
inductive Token where
  | opening
  | closing
  | word (text : List Char)
  | quoted (bytes : Bytes)
deriving Repr, DecidableEq

/-- A nested expression. -/
inductive Expression where
  | word (text : List Char)
  | quoted (bytes : Bytes)
  | list (items : List Expression)
deriving Repr, Inhabited

/-- The characters that words consist of. -/
def isTokenChar (c : Char) : Bool :=
  33 ≤ c.toNat && c.toNat ≤ 126 && !(['"', '(', ')', ',', ';', '[', ']', '\x7b', '\x7d'].contains c)

/-- The text behind a line comment. -/
def skipLine (cs : List Char) : List Char :=
  cs.dropWhile fun c => c != '\n' && c != '\r'

/-- The text behind a block comment, `depth` levels of which are open below the current one. -/
def skipBlock : Nat → List Char → Option (List Char)
  | depth, '(' :: ';' :: cs => skipBlock (depth + 1) cs
  | depth, ';' :: ')' :: cs =>
    match depth with
    | 0 => some cs
    | depth + 1 => skipBlock depth cs
  | depth, _ :: cs => skipBlock depth cs
  | _, [] => none

/-- The number that hexadecimal digits up to a closing brace denote, and what follows the brace. -/
def braced (value : Nat) (seen : Bool) : List Char → Option (Nat × List Char)
  | [] => none
  | c :: cs =>
    if c = '\x7d' then if seen then some (value, cs) else none
    else
      match Bytes.hexValue? c with
      | some digit =>
        let value := value * 16 + digit
        if value < 0x110000 then braced value true cs else none
      | none => none

/-- The bytes that an escape denotes; the backslash is already read. -/
def textEscape : List Char → Option (Bytes × List Char)
  | 't' :: cs => some ([9], cs)
  | 'n' :: cs => some ([10], cs)
  | 'r' :: cs => some ([13], cs)
  | '"' :: cs => some ([34], cs)
  | '\'' :: cs => some ([39], cs)
  | '\\' :: cs => some ([92], cs)
  | 'u' :: '\x7b' :: cs =>
    match braced 0 false cs with
    | some (code, rest) =>
      if code.isValidChar then some (String.utf8EncodeChar (Char.ofNat code), rest) else none
    | none => none
  | a :: b :: cs =>
    match Bytes.hexValue? a, Bytes.hexValue? b with
    | some high, some low => some ([UInt8.ofNat (high * 16 + low)], cs)
    | _, _ => none
  | _ => none

/-- The bytes of a quoted string behind its opening mark, and what follows the closing mark. -/
def quotedBytes : Nat → List Char → Option (Bytes × List Char)
  | 0, _ => none
  | _ + 1, [] => none
  | fuel + 1, c :: cs =>
    if c = '"' then some ([], cs)
    else if c = '\\' then
      match textEscape cs with
      | some (bytes, rest) =>
        match quotedBytes fuel rest with
        | some (more, tail) => some (bytes ++ more, tail)
        | none => none
      | none => none
    else if c.toNat < 32 || c.toNat = 127 then none
    else
      match quotedBytes fuel cs with
      | some (more, tail) => some (String.utf8EncodeChar c ++ more, tail)
      | none => none

/-- The tokens of a text. -/
def tokens : Nat → List Char → Option (List Token)
  | 0, _ => none
  | _ + 1, [] => some []
  | fuel + 1, c :: cs =>
    if c = ' ' || c = '\n' || c = '\t' || c = '\r' then tokens fuel cs
    else if c = ';' then
      match cs with
      | ';' :: rest => tokens fuel (skipLine rest)
      | _ => none
    else if c = '(' then
      match cs with
      | ';' :: rest =>
        match skipBlock 0 rest with
        | some rest => tokens fuel rest
        | none => none
      | _ => (tokens fuel cs).map (.opening :: ·)
    else if c = ')' then (tokens fuel cs).map (.closing :: ·)
    else if c = '"' then
      match quotedBytes (cs.length + 1) cs with
      | some (bytes, rest) => (tokens fuel rest).map (.quoted bytes :: ·)
      | none => none
    else if isTokenChar c then
      let word := c :: cs.takeWhile isTokenChar
      (tokens fuel (cs.dropWhile isTokenChar)).map (.word word :: ·)
    else none

/-- Nests tokens; `stack` holds the items of the open lists, the innermost first and each in
reverse. -/
def nest : List (List Expression) → List Token → Option (List Expression)
  | [items], [] => some items.reverse
  | _, [] => none
  | stack, .opening :: rest => nest ([] :: stack) rest
  | items :: outer :: stack, .closing :: rest => nest ((.list items.reverse :: outer) :: stack) rest
  | _, .closing :: _ => none
  | items :: stack, .word text :: rest => nest ((.word text :: items) :: stack) rest
  | items :: stack, .quoted bytes :: rest => nest ((.quoted bytes :: items) :: stack) rest
  | [], _ => none

/-- The expressions of a text. -/
def Expression.ofText? (text : String) : Option (List Expression) :=
  let cs := text.toList
  match tokens (cs.length + 1) cs with
  | some tokens => nest [[]] tokens
  | none => none

end FormatterHost.Wasm
