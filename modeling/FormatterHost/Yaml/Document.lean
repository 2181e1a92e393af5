import FormatterHost.Yaml.Token
import FormatterHost.Yaml.Value

/-!
# YAML documents

A text holds at most one document, and a text without any stands for an empty mapping.  Nodes are
read off the tokens of the text.
-/

namespace FormatterHost.Yaml

/-- What is known while a document is read. -/
structure Reading where
  tokens : List Token
  handles : Handles := []
  /-- The anchors, each with the number of the node that it marks; the last come first. -/
  anchors : List (String × Nat) := []
  /-- The values of numbered nodes that are complete. -/
  values : List (Nat × Value) := []
  /-- The number of the next node with an anchor. -/
  next : Nat := 0

namespace Reading

/-- The reading behind its first token. -/
def skip (reading : Reading) : Reading :=
  { reading with tokens := reading.tokens.tail }

/-- Whether one of the given tokens is next. -/
def isAt (tokens : List Token) (reading : Reading) : Bool :=
  match reading.tokens with
  | token :: _ => tokens.contains token
  | [] => false

/-- Reads an anchor, if one is next: the result is the number of the node. -/
def anchor (reading : Reading) : Option Nat × Reading :=
  match reading.tokens with
  | .anchor name :: tokens =>
    (some reading.next,
      { reading with
        tokens, anchors := (name, reading.next) :: reading.anchors, next := reading.next + 1 })
  | _ => (none, reading)

/-- Reads a tag, if one is next. -/
def tag? (reading : Reading) : Option (Option Tag × Reading) :=
  match reading.tokens with
  | .tag handle ending :: tokens =>
    (Tag.resolve? reading.handles handle ending).map fun tag => (some tag, { reading with tokens })
  | _ => some (none, reading)

/-- Reads an anchor and a tag, in either order. -/
def properties? (reading : Reading) : Option (Option Nat × Option Tag × Reading) := do
  match reading.anchor with
  | (some number, reading) =>
    let (tag, reading) ← reading.tag?
    return (some number, tag, reading)
  | (none, reading) =>
    match ← reading.tag? with
    | (some tag, reading) =>
      let (number, reading) := reading.anchor
      return (number, some tag, reading)
    | (none, reading) => return (none, none, reading)

/-- The value to which an anchor refers.  Inside of the node that it marks it has none. -/
def referred? (name : String) (reading : Reading) : Option Value :=
  (reading.anchors.lookup name).map fun number => (reading.values.lookup number).getD .invalid

/-- Keeps the value of a node that has an anchor. -/
def keep (number : Option Nat) (value : Value) (reading : Reading) : Reading :=
  match number with
  | some number => { reading with values := (number, value) :: reading.values }
  | none => reading

end Reading

/-- The value of a scalar. -/
def scalarValue (plain : Bool) (tag : Option Tag) (text : String) : Value :=
  if !plain then .text text
  else
    match tag with
    | some tag => Value.ofTagged tag text
    | none => Value.ofPlain text

/-- The mapping with the given keys and values by turns. -/
def mapping? (values : List Value) : Option Value :=
  (entriesOf? [] [] values).map .mapping

/-- The sequence of the given values. -/
def sequence? (values : List Value) : Option Value :=
  (values.mapM Value.node?).map .sequence

/-- Adds a value in front of those that are read behind it. -/
def consValue (value : Value) (rest : Option (List Value × Reading)) :
    Option (List Value × Reading) :=
  rest.map fun (values, reading) => (value :: values, reading)

mutual

/-- Reads a node.  Collections in block style are admitted by `block`, entries of a sequence that is
indented like the mapping around it by `entries`. -/
def readNode? : Nat → (block entries : Bool) → Reading → Option (Value × Reading)
  | 0, _, _, _ => none
  | fuel + 1, block, entries, reading =>
    match reading.tokens with
    | .reference name :: _ => (reading.referred? name).map (·, reading.skip)
    | _ => do
      let (number, tag, reading) ← reading.properties?
      let marked := number.isSome || tag.isSome
      let (value, reading) ← readContent? fuel block entries marked tag reading
      return (value, reading.keep number value)

/-- Reads a node behind its anchor and tag.  If it has one of these it may be empty. -/
def readContent? : Nat → (block entries marked : Bool) → Option Tag → Reading →
    Option (Value × Reading)
  | 0, _, _, _, _, _ => none
  | fuel + 1, block, entries, marked, tag, reading =>
    let sequence (items : Option (List Value × Reading)) : Option (Value × Reading) := do
      let (items, reading) ← items
      return (← sequence? items, reading)
    let mapping (members : Option (List Value × Reading)) : Option (Value × Reading) := do
      let (members, reading) ← members
      return (← mapping? members, reading)
    match reading.tokens with
    | .scalar plain text :: _ => some (scalarValue plain tag text, reading.skip)
    | .flowSequenceStart :: _ => sequence (readFlowItems? fuel reading.skip)
    | .flowMappingStart :: _ => mapping (readFlowMembers? fuel reading.skip)
    | token :: _ =>
      if entries && token == .blockEntry then sequence (readEntries? fuel reading)
      else if block && token == .blockSequenceStart then sequence (readItems? fuel reading.skip)
      else if block && token == .blockMappingStart then mapping (readMembers? fuel reading.skip)
      else if marked then some (scalarValue true tag "", reading)
      else none
    | [] => if marked then some (scalarValue true tag "", reading) else none

/-- Reads the entries of a sequence that is indented like the mapping around it. -/
def readEntries? : Nat → Reading → Option (List Value × Reading)
  | 0, _ => none
  | fuel + 1, reading =>
    match reading.tokens with
    | .blockEntry :: _ => do
      let reading := reading.skip
      let (item, reading) ←
        if reading.isAt [.blockEntry, .key, .value, .blockEnd] then some (.empty, reading)
        else readNode? fuel true false reading
      consValue item (readEntries? fuel reading)
    | _ => some ([], reading)

/-- Reads the entries of a sequence in block style. -/
def readItems? : Nat → Reading → Option (List Value × Reading)
  | 0, _ => none
  | fuel + 1, reading =>
    match reading.tokens with
    | .blockEnd :: _ => some ([], reading.skip)
    | .blockEntry :: _ => do
      let reading := reading.skip
      let (item, reading) ←
        if reading.isAt [.blockEntry, .blockEnd] then some (.empty, reading)
        else readNode? fuel true false reading
      consValue item (readItems? fuel reading)
    | _ => none

/-- Reads the keys and values of a mapping in block style. -/
def readMembers? : Nat → Reading → Option (List Value × Reading)
  | 0, _ => none
  | fuel + 1, reading =>
    match reading.tokens with
    | .blockEnd :: _ => some ([], reading.skip)
    | .key :: _ => do
      let reading := reading.skip
      let (key, reading) ←
        if reading.isAt [.key, .value, .blockEnd] then some (.empty, reading)
        else readNode? fuel true true reading
      consValue key (readMemberValue? fuel reading)
    | .value :: _ => consValue .empty (readMemberValue? fuel reading)
    | _ => none

/-- Reads the value of a key in block style, and the members behind it. -/
def readMemberValue? : Nat → Reading → Option (List Value × Reading)
  | 0, _ => none
  | fuel + 1, reading =>
    match reading.tokens with
    | .value :: _ => do
      let reading := reading.skip
      let (value, reading) ←
        if reading.isAt [.key, .value, .blockEnd] then some (.empty, reading)
        else readNode? fuel true true reading
      consValue value (readMembers? fuel reading)
    | _ => consValue .empty (readMembers? fuel reading)

/-- Reads the items of a sequence in flow style. -/
def readFlowItems? : Nat → Reading → Option (List Value × Reading)
  | 0, _ => none
  | fuel + 1, reading =>
    if reading.isAt [.flowSequenceEnd] then some ([], reading.skip)
    else do
      let (item, reading) ←
        if reading.isAt [.key] then readPair? fuel reading.skip
        else readNode? fuel false false reading
      if reading.isAt [.flowSequenceEnd] then return ([item], reading.skip)
      else if reading.isAt [.flowEntry] then consValue item (readFlowItems? fuel reading.skip)
      else none

/-- Reads a single pair that is an item of a sequence. -/
def readPair? : Nat → Reading → Option (Value × Reading)
  | 0, _ => none
  | fuel + 1, reading => do
    let (key, reading) ←
      if reading.isAt [.value, .flowEntry, .flowSequenceEnd] then some (.empty, reading)
      else readNode? fuel false false reading
    let (value, reading) ←
      if !reading.isAt [.value] || reading.skip.isAt [.flowEntry, .flowSequenceEnd] then
        some (.empty, if reading.isAt [.value] then reading.skip else reading)
      else readNode? fuel false false reading.skip
    return (← mapping? [key, value], reading)

/-- Reads the keys and values of a mapping in flow style. -/
def readFlowMembers? : Nat → Reading → Option (List Value × Reading)
  | 0, _ => none
  | fuel + 1, reading =>
    if reading.isAt [.flowMappingEnd] then some ([], reading.skip)
    else do
      let marked := reading.isAt [.key]
      let reading := if marked then reading.skip else reading
      let (key, reading) ←
        if reading.isAt [.value] || (marked && reading.isAt [.flowEntry, .flowMappingEnd]) then
          some (.empty, reading)
        else readNode? fuel false false reading
      let (value, reading) ←
        if !reading.isAt [.value] then some (.empty, reading)
        else if reading.skip.isAt [.flowEntry, .flowMappingEnd] then some (.empty, reading.skip)
        else readNode? fuel false false reading.skip
      if reading.isAt [.flowMappingEnd] then return ([key, value], reading.skip)
      else if reading.isAt [.flowEntry] then
        consValue key (consValue value (readFlowMembers? fuel reading.skip))
      else none

end

/-- Reads the directives in front of a document.  Of the handles that they introduce only that of
the last directive is known afterwards. -/
def readDirectives? (versioned : Bool) (handles : Handles) :
    List Token → Option (Handles × List Token)
  | .versionDirective :: tokens => if versioned then none else readDirectives? true [] tokens
  | .handleDirective handle lead :: tokens => readDirectives? versioned [(handle, lead)] tokens
  | tokens => some (handles, tokens)

/-- Whether a token stands before or between documents. -/
def Token.isOutside : Token → Bool
  | .versionDirective | .handleDirective _ _ | .documentStart | .documentEnd => true
  | _ => false

/-- Reads a document.  One with directives has a mark at its start, behind which it may be empty. -/
def readDocument? (tokens : List Token) : Option (Value × List Token) := do
  let (handles, rest) ← readDirectives? false [] tokens
  let (value, reading) ←
    match rest with
    | .documentStart :: rest =>
      let reading : Reading := { tokens := rest, handles }
      if rest.head?.all Token.isOutside then some (Value.empty, reading)
      else readNode? (4 * rest.length + 4) true false reading
    | _ =>
      if rest.length = tokens.length then
        readNode? (4 * rest.length + 4) true false { tokens := rest, handles }
      else none
  return (value, reading.tokens)

/-- The settings tree of a text. -/
def node? (text : String) : Option Node := do
  let skipEnds (tokens : List Token) : List Token := tokens.dropWhile (· == .documentEnd)
  match skipEnds (← tokens? text) with
  | [] => return .table []
  | tokens =>
    let (value, rest) ← readDocument? tokens
    if skipEnds rest = [] then value.node? else none

end FormatterHost.Yaml
