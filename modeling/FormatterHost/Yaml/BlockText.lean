import FormatterHost.Yaml.Cursor

/-!
# Block scalars

A block scalar holds the lines below its header that are indented as its first line is.  A literal
one keeps its line breaks; in a folded one a line break between two lines of text counts as a blank.
-/

namespace FormatterHost.Yaml

/-- What becomes of the line breaks at the end of a block scalar: none stays, one does, or all do.
-/
inductive Chomping where
  | strip
  | clip
  | keep
deriving Repr, DecidableEq

/-- What the header of a block scalar says about it. -/
structure BlockHeader where
  folded : Bool
  chomping : Chomping := .clip
  /-- How much deeper the text is indented than what holds it, if that is given. -/
  increment : Option Nat := none
deriving Repr

namespace BlockHeader

/-- Reads how the end of the scalar is treated, if that stands here. -/
def chomping? (cursor : Cursor) : Option (Chomping × Cursor) :=
  if cursor.peek = '+' then some (.keep, cursor.skipChar)
  else if cursor.peek = '-' then some (.strip, cursor.skipChar)
  else none

/-- Reads the indentation, if it stands here.  It may not be zero. -/
def increment? (cursor : Cursor) : Option (Option Nat × Cursor) :=
  if !Decimal.isDigit cursor.peek then some (none, cursor)
  else if cursor.peek = '0' then none
  else some (some (Decimal.digitValue cursor.peek), cursor.skipChar)

/-- Reads a header behind its mark: the two parts come in either order, and only a comment may
follow them on the line. -/
def read? (folded : Bool) (cursor : Cursor) : Option (BlockHeader × Cursor) := do
  let (header, cursor) ←
    match chomping? cursor with
    | some (chomping, cursor) => do
      let (increment, cursor) ← increment? cursor
      pure (⟨folded, chomping, increment⟩, cursor)
    | none => do
      let (increment, cursor) ← increment? cursor
      match increment, chomping? cursor with
      | some _, some (chomping, cursor) => pure (⟨folded, chomping, increment⟩, cursor)
      | _, _ => pure (⟨folded, .clip, increment⟩, cursor)
  let (_, cursor) ← cursor.gap? true
  if cursor.atLineEnd then return (header, cursor) else none

end BlockHeader

/-- Passes over the indentation of a line, and over empty lines before it.  The result counts these.
-/
def skipIndentation (indent : Nat) : Nat → (breaks : Nat) → Cursor → Nat × Cursor
  | 0, breaks, cursor => (breaks, cursor)
  | fuel + 1, breaks, cursor =>
    if cursor.column < indent && cursor.peek = ' ' then
      skipIndentation indent fuel breaks cursor.skipBlank
    else if isBreak cursor.peek then skipIndentation indent fuel (breaks + 1) cursor.skipBreak
    else (breaks, cursor)

/-- Passes over all blanks before the first text, and finds the widest indentation among them. -/
def widestIndentation : Nat → (widest breaks : Nat) → Cursor → Nat × Nat × Cursor
  | 0, widest, breaks, cursor => (widest, breaks, cursor)
  | fuel + 1, widest, breaks, cursor =>
    let widest := max widest cursor.column
    if cursor.peek = ' ' then widestIndentation fuel widest breaks cursor.skipBlank
    else if isBreak cursor.peek then widestIndentation fuel widest (breaks + 1) cursor.skipBreak
    else (widest, breaks, cursor)

/-- The characters of a line. -/
def lineText : Nat → Cursor → List Char × Cursor
  | 0, cursor => ([], cursor)
  | fuel + 1, cursor =>
    if cursor.atLineEnd then ([], cursor)
    else
      let (line, rest) := lineText fuel cursor.skipBlank
      (cursor.peek :: line, rest)

/-- The lines of a block scalar that have been read, and what follows the last of them. -/
structure BlockLines where
  text : List Char
  /-- Whether a line break ends the last line. -/
  ended : Bool
  /-- The number of empty lines behind it. -/
  breaks : Nat
  cursor : Cursor

/-- What stands between two lines: `breaks` empty lines, and the break that ends the first
line.  Folding spares lines that start with a blank. -/
def lineSeparation (folded : Bool) (breaks : Nat) (blankBefore blankAfter : Bool) : List Char :=
  if folded && !blankBefore && !blankAfter then
    if breaks = 0 then [' '] else List.replicate breaks '\n'
  else List.replicate (breaks + 1) '\n'

/-- Reads the lines of a block scalar.  `before` tells of the line before, if there is one, whether
it starts with a blank. -/
def blockLines (folded : Bool) (indent : Nat) :
    Nat → (before : Option Bool) → (breaks : Nat) → Cursor → BlockLines
  | 0, before, breaks, cursor => ⟨[], before.isSome, breaks, cursor⟩
  | fuel + 1, before, breaks, cursor =>
    if cursor.column ≠ indent || cursor.atEnd || cursor.atMarker '.' then
      ⟨[], before.isSome, breaks, cursor⟩
    else
      let blank := isBlank cursor.peek
      let separation :=
        match before with
        | none => List.replicate breaks '\n'
        | some blankBefore => lineSeparation folded breaks blankBefore blank
      let (line, cursor) := lineText cursor.rest.length cursor
      if cursor.atEnd then ⟨separation ++ line, false, 0, cursor⟩
      else
        let cursor := cursor.skipBreak
        let (breaks, cursor) := skipIndentation indent (cursor.rest.length + 1) 0 cursor
        let lines := blockLines folded indent fuel (some blank) breaks cursor
        { lines with text := separation ++ line ++ lines.text }

/-- The end of the text of a block scalar.  Text that breaks off has a line break all the same. -/
def blockEnding (chomping : Chomping) (indent : Nat) (lines : BlockLines) : List Char :=
  if chomping = .strip then []
  else
    (if lines.ended then ['\n'] else [])
      ++ (if lines.cursor.atEnd && max indent 1 ≤ lines.cursor.column then ['\n'] else [])
      ++ (if chomping = .keep then List.replicate lines.breaks '\n' else [])

/-- The text of a block scalar that has no line of text, and the text ends: `broken` tells whether a
line break follows the header. -/
def blankText (chomping : Chomping) (broken : Bool) (breaks : Nat) : List Char :=
  if chomping = .strip || !broken then []
  else if chomping = .clip || breaks = 0 then ['\n']
  else List.replicate breaks '\n'

/-- The text of a block scalar, in a collection with a given indentation; the cursor is behind the
mark of the scalar. -/
def blockText? (folded : Bool) (parent : Int) (cursor : Cursor) : Option (List Char × Cursor) := do
  let (header, cursor) ← BlockHeader.read? folded cursor
  let broken := isBreak cursor.peek
  let cursor := if broken then cursor.skipBreak else cursor
  if cursor.peek = '\t' then none
  else
    let fuel := cursor.rest.length + 1
    let (indent, breaks, cursor) :=
      match header.increment with
      | some increment =>
        let indent := parent.toNat + increment
        (indent, skipIndentation indent fuel 0 cursor)
      | none =>
        let (widest, breaks, cursor) := widestIndentation fuel 0 0 cursor
        (max widest (parent + 1).toNat, breaks, cursor)
    if cursor.atEnd then return (blankText header.chomping broken breaks, cursor)
    else if cursor.column < indent && parent < cursor.column then none
    else
      let lines := blockLines folded indent (cursor.rest.length + 1) none breaks cursor
      return (lines.text ++ blockEnding header.chomping indent lines, lines.cursor)

end FormatterHost.Yaml
