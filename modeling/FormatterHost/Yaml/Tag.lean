import FormatterHost.Yaml.Cursor

/-!
# Tags

A tag tells how a node is to be understood.  It is written with a handle that stands for the start
of the tag, or in full between angle brackets.
-/

namespace FormatterHost.Yaml

/-- A tag: what its handle stands for, and the rest. -/
structure Tag where
  lead : String
  ending : String
deriving Repr, DecidableEq

/-- What the tags of the core types start with. -/
def Tag.coreLead : String := "tag:yaml.org,2002:"

/-- What the handles of a document stand for. -/
abbrev Handles := List (String × String)

/-- The tag that is written with a handle.  The secondary handle stands for the core types unless a
document says otherwise; a named handle must have been introduced. -/
def Tag.resolve? (handles : Handles) (handle ending : String) : Option Tag :=
  match handles.lookup handle with
  | some lead => some ⟨lead, ending⟩
  | none =>
    if handle = "!!" then some ⟨Tag.coreLead, ending⟩
    else if 2 ≤ handle.length ∧ handle.toList.head? = some '!'
        ∧ handle.toList.getLast? = some '!' then
      none
    else some ⟨handle, ending⟩

namespace Tag

/-- The characters of names. -/
def isName (c : Char) : Bool :=
  c.isAlphanum || c == '_' || c == '-'

/-- The characters of locators. -/
def isLocator (c : Char) : Bool :=
  c.isAlphanum || "-#;/?:@&=+$,_.!~*'()[]%".toList.contains c

/-- The characters of a tag behind a handle. -/
def isEnding (c : Char) : Bool :=
  isLocator c && !isFlow c && c != '!'

/-- The name here. -/
def nameText : Nat → Cursor → List Char × Cursor
  | 0, cursor => ([], cursor)
  | fuel + 1, cursor =>
    if isName cursor.peek then
      let (name, rest) := nameText fuel cursor.skipChar
      (cursor.peek :: name, rest)
    else ([], cursor)

/-- The handle here.  In a directive it must be complete. -/
def handle? (directive : Bool) (cursor : Cursor) : Option (String × Cursor) :=
  if cursor.peek ≠ '!' then none
  else
    let (name, cursor) := nameText cursor.rest.length cursor.skipChar
    if cursor.peek = '!' then some (String.ofList ('!' :: name ++ ['!']), cursor.skipChar)
    else if directive && name ≠ [] then none
    else some (String.ofList ('!' :: name), cursor)

/-- The octet that two hexadecimal digits behind a percent sign denote. -/
def octet? (cursor : Cursor) : Option (Nat × Cursor) :=
  if cursor.peek ≠ '%' then none
  else do
    let high ← Bytes.hexValue? (cursor.peekAt 1)
    let low ← Bytes.hexValue? (cursor.peekAt 2)
    return (high * 16 + low, Cursor.skipChars 3 cursor)

/-- The octets that go on a character, put behind `code`. -/
def moreOctets? : Nat → (code : Nat) → Cursor → Option (Nat × Cursor)
  | 0, code, cursor => some (code, cursor)
  | count + 1, code, cursor => do
    let (octet, cursor) ← octet? cursor
    if octet / 64 = 2 then moreOctets? count (code * 256 + octet) cursor else none

/-- The character that octets denote: their number, put side by side, is its code. -/
def octetChar? (cursor : Cursor) : Option (Char × Cursor) := do
  let (octet, cursor) ← octet? cursor
  let more ←
    if octet < 128 then some 0
    else if octet / 32 = 6 then some 1
    else if octet / 16 = 14 then some 2
    else if octet / 8 = 30 then some 3
    else none
  let (code, cursor) ← moreOctets? more octet cursor
  if code.isValidChar then return (Char.ofNat code, cursor) else none

/-- The characters here that satisfy a condition; octets are read as the character they denote. -/
def locatorText? (condition : Char → Bool) : Nat → Cursor → Option (List Char × Cursor)
  | 0, cursor => some ([], cursor)
  | fuel + 1, cursor =>
    if !condition cursor.peek then some ([], cursor)
    else do
      let (c, cursor) ←
        if cursor.peek = '%' then octetChar? cursor else some (cursor.peek, cursor.skipChar)
      let (text, cursor) ← locatorText? condition fuel cursor
      return (c :: text, cursor)

/-- The handle and the rest of the tag here, without regard to what follows it. -/
def written? (cursor : Cursor) : Option (String × String × Cursor) := do
  if cursor.peekAt 1 = '<' then
    let (text, cursor) ← locatorText? isLocator cursor.rest.length (Cursor.skipChars 2 cursor)
    if cursor.peek = '>' then return ("", String.ofList text, cursor.skipChar) else none
  else
    let (handle, cursor) ← handle? false cursor
    let (text, cursor) ← locatorText? isEnding cursor.rest.length cursor
    if 2 ≤ handle.length ∧ handle.toList.getLast? = some '!' then
      if text = [] then none else return (handle, String.ofList text, cursor)
    else
      let ending := handle.toList.tail ++ text
      if ending = [] then return ("", "!", cursor) else return ("!", String.ofList ending, cursor)

/-- What a handle stands for, where a directive says so. -/
def lead? (cursor : Cursor) : Option (String × Cursor) :=
  if cursor.peek = '!' then do
    let (text, rest) ← locatorText? isLocator cursor.rest.length cursor.skipChar
    return (String.ofList ('!' :: text), rest)
  else if isEnding cursor.peek then do
    let (text, rest) ← locatorText? isLocator cursor.rest.length cursor
    return (String.ofList text, rest)
  else none

end Tag

end FormatterHost.Yaml
