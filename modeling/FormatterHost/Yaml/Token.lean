import FormatterHost.Yaml.BlockText
import FormatterHost.Yaml.ScalarText
import FormatterHost.Yaml.Tag

/-!
# Tokens of YAML

A text is cut into tokens first.  Collections in block style have no marks of their own: indentation
opens and closes them.  That something is the key of a mapping shows only at the colon behind it, so
places where a key may have begun are kept in mind, and the tokens that belong before the key are
inserted there.
-/

namespace FormatterHost.Yaml

/-- A token. -/
inductive Token where
  | versionDirective
  | handleDirective (handle lead : String)
  | documentStart
  | documentEnd
  | blockSequenceStart
  | blockMappingStart
  | blockEnd
  | blockEntry
  | flowSequenceStart
  | flowSequenceEnd
  | flowMappingStart
  | flowMappingEnd
  | flowEntry
  | key
  | value
  | anchor (name : String)
  | reference (name : String)
  | tag (handle ending : String)
  | scalar (plain : Bool) (text : String)
deriving Repr, DecidableEq

/-- A place where a key may have begun. -/
structure KeyPlace where
  /-- How many tokens precede it. -/
  position : Nat
  index : Nat
  line : Nat
  column : Nat
  /-- Whether nothing but a key may stand there. -/
  required : Bool

/-- An indentation that is left when lines are indented less. -/
structure Indentation where
  outer : Int
  /-- Whether it belongs to a collection, rather than to the inside of an entry. -/
  ofCollection : Bool

/-- A collection in flow style that is open. -/
structure FlowLevel where
  /-- Where a key may have begun outside of it. -/
  outerPlace : Option KeyPlace
  isSequence : Bool
  /-- Whether the key of the entry at hand has a mark. -/
  keyMarked : Bool := false

/-- A text that has been cut up to some place. -/
structure Cutting where
  cursor : Cursor
  tokens : Array Token := #[]
  /-- The column of the last token, if that is an anchor or a tag. -/
  propertyColumn : Option Nat := none
  /-- Whether a key may begin here. -/
  keyAllowed : Bool := true
  /-- Where a key may have begun in the innermost collection. -/
  place : Option KeyPlace := none
  /-- The open collections in flow style, the innermost first. -/
  flowLevels : List FlowLevel := []
  indent : Int := -1
  indentations : List Indentation := []
  /-- Where a colon may follow without a gap. -/
  adjacentIndex : Option Nat := none

namespace Cutting

/-- The deepest nesting of collections in flow style. -/
def flowDepth : Nat := 255

/-- Whether a collection in flow style is open. -/
def inFlow (cutting : Cutting) : Bool :=
  !cutting.flowLevels.isEmpty

/-- Adds a token. -/
def push (token : Token) (cutting : Cutting) : Cutting :=
  { cutting with tokens := cutting.tokens.push token, propertyColumn := none }

/-- Adds a token that says something about the node behind it. -/
def pushProperty (token : Token) (column : Nat) (cutting : Cutting) : Cutting :=
  { cutting with tokens := cutting.tokens.push token, propertyColumn := some column }

/-- Inserts a token. -/
def insert (position : Nat) (token : Token) (cutting : Cutting) : Cutting :=
  { cutting with tokens := cutting.tokens.insertIdxIfInBounds position token }

/-- Allows or forbids keys. -/
def allowKey (allowed : Bool) (cutting : Cutting) : Cutting :=
  { cutting with keyAllowed := allowed }

/-- Closes the collections that are indented more than a column. -/
def unroll (column : Int) (cutting : Cutting) : Cutting :=
  if cutting.inFlow then cutting else close cutting.indentations cutting
where
  /-- Closes collections one after another. -/
  close : List Indentation → Cutting → Cutting
    | [], cutting => cutting
    | indentation :: rest, cutting =>
      if column < cutting.indent then
        let cutting := { cutting with indent := indentation.outer, indentations := rest }
        close rest (if indentation.ofCollection then cutting.push .blockEnd else cutting)
      else cutting

/-- Leaves the insides of entries. -/
def leaveEntries (cutting : Cutting) : Cutting :=
  leave cutting.indentations cutting
where
  /-- Leaves them one after another. -/
  leave : List Indentation → Cutting → Cutting
    | [], cutting => cutting
    | indentation :: rest, cutting =>
      if indentation.ofCollection then cutting
      else leave rest { cutting with indent := indentation.outer, indentations := rest }

/-- Opens a collection at a column, unless one is open there: `position` is where its token belongs.
-/
def roll (column : Nat) (position : Nat) (token : Token) (cutting : Cutting) : Cutting :=
  if cutting.inFlow then cutting
  else
    let cutting : Cutting :=
      match cutting.indentations with
      | ⟨outer, false⟩ :: rest =>
        if cutting.indent ≤ (column : Int) then
          { cutting with indent := outer, indentations := rest }
        else cutting
      | _ => cutting
    if cutting.indent < (column : Int) then
      let indentations := ⟨cutting.indent, true⟩ :: cutting.indentations
      { cutting with indent := column, indentations }.insert position token
    else cutting

/-- Enters an entry of a collection, where lines are indented by one column more at least. -/
def enterEntry (cutting : Cutting) : Cutting :=
  match cutting.indentations with
  | ⟨_, true⟩ :: _ =>
    if cutting.inFlow then cutting
    else
      { cutting with
        indent := cutting.indent + 1
        indentations := ⟨cutting.indent, false⟩ :: cutting.indentations }
  | _ => cutting

/-- Keeps in mind that a key may begin here. -/
def keepPlace (cutting : Cutting) : Cutting :=
  if !cutting.keyAllowed then cutting
  else
    let cursor := cutting.cursor
    let inCollection :=
      match cutting.indentations with
      | indentation :: _ => indentation.ofCollection
      | [] => false
    let required := !cutting.inFlow && cutting.indent == cursor.column && inCollection
    { cutting with
      place := some ⟨cutting.tokens.size, cursor.index, cursor.line, cursor.column, required⟩ }

/-- Forgets where a key may have begun, unless a key is required there. -/
def dropPlace? (cutting : Cutting) : Option Cutting :=
  if cutting.place.any (·.required) then none else some { cutting with place := none }

/-- How far a key may reach. -/
def keyLimit : Nat := 1024

/-- Forgets a place on another line or too far back, outside of flow style. -/
def dropStale? (cutting : Cutting) : Option Cutting :=
  match cutting.place with
  | some place =>
    let cursor := cutting.cursor
    if !cutting.inFlow && (place.line < cursor.line || place.index + keyLimit < cursor.index) then
      cutting.dropPlace?
    else some cutting
  | none => some cutting

/-- Passes over blanks, line breaks and comments.  Tabs do not indent what a collection holds. -/
def skipToToken? : Nat → Cutting → Option Cutting
  | 0, cutting => some cutting
  | fuel + 1, cutting =>
    let cursor := cutting.cursor
    let c := cursor.peek
    if c = '\t' && !cutting.indentations.isEmpty && cursor.fresh
        && (cursor.column : Int) < cutting.indent then
      match cursor.gap? true with
      | some (_, cursor) =>
        if cursor.atLineEnd then skipToToken? fuel { cutting with cursor } else none
      | none => none
    else if isBlank c then skipToToken? fuel { cutting with cursor := cursor.skipBlank }
    else if isBreak c then
      let keyAllowed := cutting.keyAllowed || !cutting.inFlow
      skipToToken? fuel { cutting with cursor := cursor.skipBreak, keyAllowed }
    else if c = '#' then skipToToken? fuel { cutting with cursor := cursor.skipLine }
    else some cutting

/-- Passes over what may separate tokens. -/
def skipSeparation? (cutting : Cutting) : Option Cutting :=
  cutting.skipToToken? (cutting.cursor.rest.length + 1)

/-- Passes over blanks and a comment. -/
def skipGap? (cutting : Cutting) : Option Cutting := do
  let (_, cursor) ← cutting.cursor.gap? true
  return { cutting with cursor }

/-- Records whether the key of the entry at hand has a mark. -/
def markKey (marked : Bool) (cutting : Cutting) : Cutting :=
  match cutting.flowLevels with
  | level :: flowLevels =>
    { cutting with flowLevels := { level with keyMarked := marked } :: flowLevels }
  | [] => cutting

/-- Whether a colon here belongs to a pair that is an entry of a sequence and has no mark. -/
def inPair (cutting : Cutting) : Bool :=
  match cutting.flowLevels with
  | level :: _ => level.isSequence && !level.keyMarked
  | [] => false

/-- Cuts the opening bracket of a collection. -/
def openFlow? (token : Token) (cutting : Cutting) : Option Cutting := do
  let cutting := cutting.keepPlace.enterEntry
  if flowDepth ≤ cutting.flowLevels.length then none
  else
    let level : FlowLevel := ⟨cutting.place, token == .flowSequenceStart, false⟩
    let cutting :=
      { cutting with
        flowLevels := level :: cutting.flowLevels
        place := none
        keyAllowed := true
        cursor := cutting.cursor.skipChar }
    return (← cutting.skipGap?).push token

/-- Cuts the closing bracket of a collection. -/
def closeFlow? (token : Token) (cutting : Cutting) : Option Cutting := do
  let cutting ← cutting.dropPlace?
  let cutting :=
    match cutting.flowLevels with
    | level :: flowLevels => { cutting with place := level.outerPlace, flowLevels }
    | [] => cutting
  let cutting := cutting.allowKey false
  let cutting ← { cutting with cursor := cutting.cursor.skipChar }.skipGap?
  let adjacentIndex :=
    if cutting.inFlow then some cutting.cursor.index else cutting.adjacentIndex
  return { cutting with adjacentIndex }.push token

/-- Cuts the comma between entries. -/
def commaToken? (cutting : Cutting) : Option Cutting := do
  let cutting ← cutting.dropPlace?
  let cutting := (cutting.allowKey true).markKey false
  let cutting ← { cutting with cursor := cutting.cursor.skipChar }.skipGap?
  return cutting.push .flowEntry

/-- Cuts the dash of an entry of a sequence. -/
def dashToken? (cutting : Cutting) : Option Cutting := do
  let column := cutting.cursor.column
  if cutting.inFlow || !cutting.keyAllowed then none
  else if column = 0 && cutting.propertyColumn = some 0 && -1 < cutting.indent then none
  else
    let cutting := { cutting with cursor := cutting.cursor.skipChar }
    let cutting := cutting.roll column cutting.tokens.size .blockSequenceStart
    let (gap, cursor) ← cutting.cursor.gap? true
    if gap.tabs && cursor.peek = '-' && cursor.gapAt 1 then none
    else
      let cutting := { cutting with cursor }
      let cutting :=
        if isBreak cursor.peek || isFlow cursor.peek then cutting.enterEntry else cutting
      return ((← cutting.dropPlace?).allowKey true).push .blockEntry

/-- Passes over what separates the mark of a key from the key; that must be something, and may not
be a tab. -/
def skipKeyGap? (passed : Bool) : Nat → Cutting → Option Cutting
  | 0, _ => none
  | fuel + 1, cutting =>
    let cursor := cutting.cursor
    let c := cursor.peek
    if c = ' ' then skipKeyGap? true fuel { cutting with cursor := cursor.skipBlank }
    else if isBreak c then
      let keyAllowed := cutting.keyAllowed || !cutting.inFlow
      skipKeyGap? true fuel { cutting with cursor := cursor.skipBreak, keyAllowed }
    else if c = '#' then skipKeyGap? passed fuel { cutting with cursor := cursor.skipLine }
    else if passed && c ≠ '\t' then some cutting
    else none

/-- Cuts the mark of a key. -/
def key? (cutting : Cutting) : Option Cutting := do
  if !cutting.inFlow && !cutting.keyAllowed then none
  else
    let cutting :=
      if cutting.inFlow then cutting.markKey true
      else cutting.roll cutting.cursor.column cutting.tokens.size .blockMappingStart
    let cutting := (← cutting.dropPlace?).allowKey !cutting.inFlow
    let cutting := { cutting with cursor := cutting.cursor.skipChar }
    return (← cutting.skipKeyGap? false (cutting.cursor.rest.length + 1)).push .key

/-- Passes over the colon before a value.  A tab behind it may not stand for indentation. -/
def skipColon? (cursor : Cursor) : Option Cursor :=
  let cursor := cursor.skipChar
  if cursor.peek ≠ '\t' then some cursor
  else
    match cursor.gap? true with
    | some (gap, cursor) =>
      if !gap.spaces && Tag.isName cursor.peek then none else some cursor
    | none => none

/-- Cuts the colon before a value. -/
def value? (cutting : Cutting) : Option Cutting := do
  let start := cutting.cursor
  let inPair := cutting.inPair
  let cutting := { cutting with cursor := ← skipColon? start }
  match cutting.place with
  | some place =>
    if inPair && place.line < start.line then none
    else
      let cutting := cutting.insert place.position .key
      let cutting := (cutting.roll place.column place.position .blockMappingStart).enterEntry
      return { cutting with place := none, keyAllowed := false }.push .value
  | none =>
    let cutting := if inPair then cutting.push .key else cutting
    if !cutting.inFlow && !cutting.keyAllowed then none
    else
      let cutting := cutting.roll start.column cutting.tokens.size .blockMappingStart
      return (cutting.enterEntry.allowKey !cutting.inFlow).push .value

/-- Whether a character belongs to the name of an anchor. -/
def isAnchorChar (c : Char) : Bool :=
  !(isBreak c || c == '\uFEFF' || isBlank c || isFlow c || c == '\x00')

/-- The name of an anchor. -/
def anchorName : Nat → Cursor → List Char × Cursor
  | 0, cursor => ([], cursor)
  | fuel + 1, cursor =>
    if isAnchorChar cursor.peek then
      let (name, rest) := anchorName fuel cursor.skipChar
      (cursor.peek :: name, rest)
    else ([], cursor)

/-- Cuts an anchor, or a reference to one. -/
def anchor? (token : String → Token) (cutting : Cutting) : Option Cutting :=
  let cutting := cutting.keepPlace.allowKey false
  let start := cutting.cursor
  let (name, cursor) := anchorName start.rest.length start.skipChar
  if name = [] then none
  else
    let token := token (String.ofList name)
    let cutting := { cutting with cursor }
    match token with
    | .anchor _ => some (cutting.pushProperty token start.column)
    | _ => some (cutting.push token)

/-- Cuts a tag. -/
def tag? (cutting : Cutting) : Option Cutting := do
  let cutting := cutting.keepPlace.allowKey false
  let start := cutting.cursor
  let (handle, ending, cursor) ← Tag.written? start
  if cursor.atGap || (cutting.inFlow && isFlow cursor.peek) then
    return { cutting with cursor }.pushProperty (.tag handle ending) start.column
  else none

/-- Cuts a block scalar. -/
def blockScalar? (folded : Bool) (cutting : Cutting) : Option Cutting := do
  let cutting := (cutting.keepPlace.allowKey true).leaveEntries
  let (text, cursor) ← blockText? folded cutting.indent cutting.cursor.skipChar
  return { cutting with cursor }.push (.scalar false (String.ofList text))

/-- Whether a quoted scalar that began on a given line may end here. -/
def quotedMayEnd (inFlow : Bool) (line : Nat) (cursor : Cursor) : Bool :=
  cursor.atLineEnd
    || (inFlow && [',', '\x7d', ']', ':'].contains cursor.peek)
    || (!inFlow && cursor.peek == ':' && cursor.line == line)

/-- Cuts a quoted scalar. -/
def quotedScalar? (mark : Char) (cutting : Cutting) : Option Cutting := do
  let cutting := cutting.keepPlace.allowKey false
  let start := cutting.cursor
  let (text, cursor) ← quotedText? mark cutting.indent (start.rest.length + 1) start.skipChar
  let (_, cursor) ← cursor.gap? true
  if quotedMayEnd cutting.inFlow start.line cursor then
    let cutting ← { cutting with cursor }.skipSeparation?
    let cutting := { cutting with adjacentIndex := some cutting.cursor.index }
    return cutting.push (.scalar false (String.ofList text))
  else none

/-- Cuts a plain scalar. -/
def plainScalar? (cutting : Cutting) : Option Cutting := do
  let cutting := (cutting.keepPlace.allowKey false).leaveEntries
  let start := cutting.cursor
  let indent := cutting.indent + 1
  if cutting.inFlow && (start.column : Int) < indent then none
  else
    let (text, cursor) ← plainText? cutting.inFlow indent (start.rest.length + 1) {} start
    let cutting := { cutting with cursor, keyAllowed := cursor.fresh }
    return cutting.push (.scalar true (String.ofList text))

/-- Cuts a mark between documents. -/
def documentMarker? (token : Token) (cutting : Cutting) : Option Cutting := do
  let cutting ← (cutting.unroll (-1)).dropPlace?
  let cursor := Cursor.skipChars 3 cutting.cursor
  let cutting := { cutting with cursor, keyAllowed := false }.push token
  if token = .documentEnd then
    let cutting ← cutting.skipGap?
    if cutting.cursor.atLineEnd then return cutting else none
  else return cutting

/-- Passes over the number of a version.  It has one to nine digits. -/
def versionNumber? (cursor : Cursor) : Option Cursor :=
  let digits := cursor.rest.takeWhile Decimal.isDigit
  if digits = [] || 9 < digits.length then none
  else some (Cursor.skipChars digits.length cursor)

/-- Cuts what follows the name of a directive.  Directives that are not known have no effect. -/
def directiveToken? (name : String) (cursor : Cursor) : Option (Token × Cursor) := do
  let skipBlanks (cursor : Cursor) : Cursor := cursor.skipWhile isBlank cursor.rest.length
  if name = "YAML" then
    let cursor ← versionNumber? (skipBlanks cursor)
    if cursor.peek = '.' then return (.versionDirective, ← versionNumber? cursor.skipChar) else none
  else if name = "TAG" then
    let (handle, cursor) ← Tag.handle? true (skipBlanks cursor)
    let (lead, cursor) ← Tag.lead? (skipBlanks cursor)
    if cursor.atGap then return (.handleDirective handle lead, cursor) else none
  else return (.handleDirective "" "", cursor.skipLine)

/-- Cuts a directive. -/
def directive? (cutting : Cutting) : Option Cutting := do
  let cutting := (← (cutting.unroll (-1)).dropPlace?).allowKey false
  let cursor := cutting.cursor.skipChar
  let (name, cursor) := Tag.nameText cursor.rest.length cursor
  if name = [] || !cursor.atGap then none
  else
    let (token, cursor) ← directiveToken? (String.ofList name) cursor
    let (_, cursor) ← cursor.gap? true
    if cursor.atLineEnd then
      let cursor := if isBreak cursor.peek then cursor.skipBreak else cursor
      return { cutting with cursor }.push token
    else none

/-- Cuts the token here. -/
def token? (cutting : Cutting) : Option Cutting :=
  let cursor := cutting.cursor
  let c := cursor.peek
  let gap := cursor.gapAt 1
  if c = '[' then cutting.openFlow? .flowSequenceStart
  else if c = '\x7b' then cutting.openFlow? .flowMappingStart
  else if c = ']' then cutting.closeFlow? .flowSequenceEnd
  else if c = '\x7d' then cutting.closeFlow? .flowMappingEnd
  else if c = ',' then cutting.commaToken?
  else if c = '-' && gap then cutting.dashToken?
  else if c = '?' && gap then cutting.key?
  else if c = ':' && (gap || (cutting.inFlow
      && (isFlow (cursor.peekAt 1) || cutting.adjacentIndex == some cursor.index))) then
    cutting.value?
  else if c = '*' then cutting.anchor? .reference
  else if c = '&' then cutting.anchor? .anchor
  else if c = '!' then cutting.tag?
  else if c = '|' && !cutting.inFlow then cutting.blockScalar? false
  else if c = '>' && !cutting.inFlow then cutting.blockScalar? true
  else if c = '\'' || c = '"' then cutting.quotedScalar? c
  else if c = '%' || c = '@' || c = '\x60' then none
  else cutting.plainScalar?

/-- Cuts the rest of the text into tokens. -/
def run? : Nat → Cutting → Option Cutting
  | 0, _ => none
  | fuel + 1, cutting => do
    let cutting ← (← cutting.skipSeparation?).dropStale?
    let cursor := cutting.cursor
    let cutting := cutting.unroll cursor.column
    if cursor.atEnd then (cutting.unroll (-1)).dropPlace?
    else
      let cutting ←
        if cursor.column = 0 && cursor.peek = '%' then cutting.directive?
        else if cursor.atMarker '-' then cutting.documentMarker? .documentStart
        else if cursor.atMarker '.' then cutting.documentMarker? .documentEnd
        else if (cursor.column : Int) < cutting.indent then none
        else cutting.token?
      run? fuel cutting

end Cutting

/-- The tokens of a text. -/
def tokens? (text : String) : Option (List Token) :=
  let cs := text.toList
  let cutting : Cutting := { cursor := { rest := cs } }
  (cutting.run? (cs.length + 2)).map (·.tokens.toList)

end FormatterHost.Yaml
