import FormatterHost.Bytes.Basic
import FormatterHost.Number.Decimal

/-!
# Places in a YAML text

Indentation matters in YAML, so a place in the text knows its line and its column, and whether
nothing but blanks precedes it on its line.
-/

namespace FormatterHost.Yaml

/-- A place in a text. -/
structure Cursor where
  rest : List Char
  index : Nat := 0
  line : Nat := 0
  column : Nat := 0
  /-- Whether only blanks precede the place on its line. -/
  fresh : Bool := true

/-- Blanks within a line. -/
def isBlank (c : Char) : Bool :=
  c == ' ' || c == '\t'

/-- Line breaks. -/
def isBreak (c : Char) : Bool :=
  c == '\n' || c == '\r'

/-- The characters that structure collections in flow style. -/
def isFlow (c : Char) : Bool :=
  [',', '[', ']', '\x7b', '\x7d'].contains c

namespace Cursor

/-- The character at the place.  The text ends with an imagined null character. -/
def peek (cursor : Cursor) : Char :=
  cursor.rest.headD '\x00'

/-- The character `count` places further on. -/
def peekAt (cursor : Cursor) (count : Nat) : Char :=
  cursor.rest.getD count '\x00'

/-- Whether the text ends here. -/
def atEnd (cursor : Cursor) : Bool :=
  cursor.peek == '\x00'

/-- Whether the line ends here. -/
def atLineEnd (cursor : Cursor) : Bool :=
  isBreak cursor.peek || cursor.atEnd

/-- Whether a blank or the end of the line is here. -/
def atGap (cursor : Cursor) : Bool :=
  isBlank cursor.peek || cursor.atLineEnd

/-- Whether a blank or the end of the line is `count` places further on. -/
def gapAt (cursor : Cursor) (count : Nat) : Bool :=
  let c := cursor.peekAt count
  isBlank c || isBreak c || c == '\x00'

/-- Passes over a blank. -/
def skipBlank (cursor : Cursor) : Cursor :=
  { cursor with
    rest := cursor.rest.tail, index := cursor.index + 1, column := cursor.column + 1 }

/-- Passes over a character that is no blank. -/
def skipChar (cursor : Cursor) : Cursor :=
  { cursor.skipBlank with fresh := false }

/-- Passes over several such characters. -/
def skipChars : Nat → Cursor → Cursor
  | 0, cursor => cursor
  | count + 1, cursor => skipChars count cursor.skipChar

/-- Passes over a line break. -/
def skipBreak (cursor : Cursor) : Cursor :=
  match cursor.rest with
  | '\r' :: '\n' :: rest => ⟨rest, cursor.index + 2, cursor.line + 1, 0, true⟩
  | _ :: rest => ⟨rest, cursor.index + 1, cursor.line + 1, 0, true⟩
  | [] => cursor

/-- Passes over characters while a condition holds of them. -/
def skipWhile (condition : Char → Bool) : Nat → Cursor → Cursor
  | 0, cursor => cursor
  | fuel + 1, cursor =>
    if !cursor.atEnd && condition cursor.peek then skipWhile condition fuel cursor.skipChar
    else cursor

/-- Passes over what is left of the line. -/
def skipLine (cursor : Cursor) : Cursor :=
  cursor.skipWhile (fun c => !isBreak c) cursor.rest.length

/-- Whether three given characters stand at the start of a line, with a gap behind them. -/
def atMarker (cursor : Cursor) (mark : Char) : Bool :=
  cursor.column == 0 && cursor.peek == mark && cursor.peekAt 1 == mark && cursor.peekAt 2 == mark
    && cursor.gapAt 3

/-- Whether the start or the end of a document is marked here. -/
def atDocumentMarker (cursor : Cursor) : Bool :=
  cursor.atMarker '-' || cursor.atMarker '.'

end Cursor

/-- The kinds of blanks that have been passed over. -/
structure Gap where
  tabs : Bool := false
  spaces : Bool := false

namespace Cursor

/-- Passes over blanks, and a comment if a blank precedes it. -/
def skipGap? (tabs : Bool) : Nat → Gap → Cursor → Option (Gap × Cursor)
  | 0, gap, cursor => some (gap, cursor)
  | fuel + 1, gap, cursor =>
    let c := cursor.peek
    if c = ' ' then skipGap? tabs fuel { gap with spaces := true } cursor.skipBlank
    else if c = '\t' && tabs then skipGap? tabs fuel { gap with tabs := true } cursor.skipBlank
    else if c = '#' then
      if gap.tabs || gap.spaces then some (gap, cursor.skipLine) else none
    else some (gap, cursor)

/-- Passes over blanks and a comment up to the end of the line or the next word. -/
def gap? (cursor : Cursor) (tabs : Bool) : Option (Gap × Cursor) :=
  cursor.skipGap? tabs (cursor.rest.length + 1) {}

end Cursor

end FormatterHost.Yaml
