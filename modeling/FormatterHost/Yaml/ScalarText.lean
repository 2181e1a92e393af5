import FormatterHost.Yaml.Cursor

/-!
# Scalars within lines

Plain and quoted scalars may go on over several lines.  A single line break between two of their
lines counts as a blank; of several, all but the first stay.
-/

namespace FormatterHost.Yaml

/-- What separates two parts of a scalar: the blanks of one line, or line breaks. -/
structure Separation where
  /-- The blanks, in reverse. -/
  blanks : List Char := []
  /-- Whether there is a line break. -/
  broken : Bool := false
  /-- Whether that line break has been escaped. -/
  escaped : Bool := false
  /-- The number of line breaks after the first. -/
  extra : Nat := 0

namespace Separation

/-- The text that a separation amounts to. -/
def text (separation : Separation) : List Char :=
  if separation.escaped then List.replicate separation.extra '\n'
  else if separation.broken then
    if separation.extra = 0 then [' '] else List.replicate separation.extra '\n'
  else separation.blanks.reverse

/-- The separation with another line break. -/
def addBreak (separation : Separation) : Separation :=
  if separation.broken || separation.escaped then { separation with extra := separation.extra + 1 }
  else { separation with blanks := [], broken := true }

end Separation

/-- Whether a plain scalar goes on with the character here. -/
def plainGoesOn (flow : Bool) (cursor : Cursor) : Bool :=
  let c := cursor.peek
  if c = ':' then !(cursor.gapAt 1 || (flow && isFlow (cursor.peekAt 1)))
  else !(flow && isFlow c)

/-- The characters of a plain scalar up to a gap. -/
def plainWord (flow : Bool) : Nat → Cursor → List Char × Cursor
  | 0, cursor => ([], cursor)
  | fuel + 1, cursor =>
    if cursor.atGap || !plainGoesOn flow cursor then ([], cursor)
    else
      let (word, rest) := plainWord flow fuel cursor.skipChar
      (cursor.peek :: word, rest)

/-- Passes over the blanks and line breaks between two parts of a plain scalar.  In the indentation
tabs may stand on empty lines only. -/
def plainGap? (indent : Int) : Nat → Separation → Cursor → Option (Separation × Cursor)
  | 0, separation, cursor => some (separation, cursor)
  | fuel + 1, separation, cursor =>
    let c := cursor.peek
    if isBlank c then
      if !cursor.fresh then
        plainGap? indent fuel { separation with blanks := c :: separation.blanks } cursor.skipBlank
      else if (cursor.column : Int) < indent && c = '\t' then
        match cursor.gap? true with
        | some (_, cursor) =>
          if cursor.atLineEnd then plainGap? indent fuel separation cursor else none
        | none => none
      else plainGap? indent fuel separation cursor.skipBlank
    else if isBreak c then plainGap? indent fuel separation.addBreak cursor.skipBreak
    else some (separation, cursor)

/-- The text of a plain scalar, behind `separation`. -/
def plainText? (flow : Bool) (indent : Int) :
    Nat → Separation → Cursor → Option (List Char × Cursor)
  | 0, _, cursor => some ([], cursor)
  | fuel + 1, separation, cursor =>
    if cursor.atDocumentMarker || cursor.peek = '#' then some ([], cursor)
    else if flow && cursor.peek = '-' && isFlow (cursor.peekAt 1) then none
    else
      let (word, cursor') := plainWord flow cursor.rest.length cursor
      let text := if word = [] then [] else separation.text ++ word
      let separation := if word = [] then separation else {}
      if !(isBlank cursor'.peek || isBreak cursor'.peek) then some (text, cursor')
      else do
        let (separation, cursor') ← plainGap? indent (cursor'.rest.length + 1) separation cursor'
        if !flow && (cursor'.column : Int) < indent then return (text, cursor')
        else
          let (more, cursor') ← plainText? flow indent fuel separation cursor'
          return (text ++ more, cursor')

/-- A number of `count` hexadecimal digits. -/
def hexNumber? : (count value : Nat) → Cursor → Option (Nat × Cursor)
  | 0, value, cursor => some (value, cursor)
  | count + 1, value, cursor =>
    match Bytes.hexValue? cursor.peek with
    | some digit => hexNumber? count (value * 16 + digit) cursor.skipChar
    | none => none

/-- The character that a letter stands for behind a backslash. -/
def shortEscape? (c : Char) : Option Char :=
  [('0', '\x00'), ('a', '\x07'), ('b', '\x08'), ('t', '\t'), ('\t', '\t'), ('n', '\n'),
    ('v', '\x0b'), ('f', '\x0c'), ('r', '\r'), ('e', '\x1b'), (' ', ' '), ('"', '"'), ('/', '/'),
    ('\\', '\\'), ('N', '\u0085'), ('_', '\u00a0'), ('L', '\u2028'), ('P', '\u2029')].lookup c

/-- The character that an escape stands for; the cursor is at the backslash. -/
def escape? (cursor : Cursor) : Option (Char × Cursor) :=
  let c := cursor.peekAt 1
  let cursor := Cursor.skipChars 2 cursor
  let width := if c = 'x' then 2 else if c = 'u' then 4 else if c = 'U' then 8 else 0
  if width = 0 then (shortEscape? c).map (·, cursor)
  else
    match hexNumber? width 0 cursor with
    | some (code, cursor) => if code.isValidChar then some (Char.ofNat code, cursor) else none
    | none => none

/-- The characters of a quoted scalar up to a gap or the closing mark, and whether an escaped line
break has been passed. -/
def quotedWord? (mark : Char) : Nat → Cursor → Option (List Char × Bool × Cursor)
  | 0, cursor => some ([], false, cursor)
  | fuel + 1, cursor =>
    let c := cursor.peek
    if cursor.atGap then some ([], false, cursor)
    else if c = mark then
      if mark = '\'' && cursor.peekAt 1 = '\'' then do
        let (word, broken, cursor) ← quotedWord? mark fuel (Cursor.skipChars 2 cursor)
        return ('\'' :: word, broken, cursor)
      else some ([], false, cursor)
    else if c = '\\' && mark = '"' then
      if isBreak (cursor.peekAt 1) then some ([], true, cursor.skipChar.skipBreak)
      else do
        let (meant, cursor) ← escape? cursor
        let (word, broken, cursor) ← quotedWord? mark fuel cursor
        return (meant :: word, broken, cursor)
    else do
      let (word, broken, cursor) ← quotedWord? mark fuel cursor.skipChar
      return (c :: word, broken, cursor)

/-- Passes over the blanks and line breaks between two parts of a quoted scalar. -/
def quotedGap? (indent : Int) : Nat → Separation → Cursor → Option (Separation × Cursor)
  | 0, separation, cursor => some (separation, cursor)
  | fuel + 1, separation, cursor =>
    let c := cursor.peek
    if isBlank c then
      if separation.broken || separation.escaped then
        if c = '\t' && (cursor.column : Int) < indent then none
        else quotedGap? indent fuel separation cursor.skipBlank
      else
        quotedGap? indent fuel { separation with blanks := c :: separation.blanks } cursor.skipBlank
    else if isBreak c then quotedGap? indent fuel separation.addBreak cursor.skipBreak
    else some (separation, cursor)

/-- The text of a quoted scalar up to its closing mark. -/
def quotedText? (mark : Char) (indent : Int) : Nat → Cursor → Option (List Char × Cursor)
  | 0, _ => none
  | fuel + 1, cursor =>
    if cursor.atDocumentMarker || cursor.atEnd || (cursor.column : Int) < indent then none
    else do
      let (word, escaped, cursor) ← quotedWord? mark (cursor.rest.length + 1) cursor
      if cursor.peek = mark && !escaped then return (word, cursor.skipChar)
      else if escaped && cursor.peek = mark then return (word, cursor.skipChar)
      else
        let start : Separation := { escaped }
        let (separation, cursor) ← quotedGap? indent (cursor.rest.length + 1) start cursor
        let (more, cursor) ← quotedText? mark indent fuel cursor
        return (word ++ separation.text ++ more, cursor)

end FormatterHost.Yaml
