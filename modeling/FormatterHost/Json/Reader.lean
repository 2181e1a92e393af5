import FormatterHost.Json.Basic
import FormatterHost.Json.Number
import FormatterHost.Json.Quoted

/-!
# Reading JSON text

`Reading.ofChars` reads one value from left to right and keeps the mistakes it meets as parts of the
reading.  Nesting is not limited: the fuel of the recursion is computed from the length of the text.
-/

namespace FormatterHost.Json

/-- The blanks that may stand between tokens. -/
def isBlank (c : Char) : Bool :=
  c == ' ' || c == '\n' || c == '\t' || c == '\r'

/-- The text behind its leading blanks. -/
def skipBlanks (cs : List Char) : List Char :=
  cs.dropWhile isBlank

/-- Reads the rest of a word, letter by letter. -/
def readWord (reading : Reading) (flaw : Fault → Flaw) :
    (word cs : List Char) → Reading × Option (List Char)
  | [], cs => (reading, some cs)
  | _ :: _, [] => (.flawed (flaw .unfinished), none)
  | w :: word, c :: cs =>
    if w = c then readWord reading flaw word cs else (.flawed (flaw .malformed), none)

/-- A string as a value. -/
def readText (cs : List Char) : Reading × Option (List Char) :=
  match readString cs with
  | (.ok text, rest) => (.string text, rest)
  | (.error defect, rest) => (.flawed (.string defect), rest)

mutual

/-- Reads a value, and what follows it unless nothing can. -/
def readValue : Nat → List Char → Reading × Option (List Char)
  | 0, _ => (.flawed (.absent .unfinished), none)
  | fuel + 1, cs =>
    match skipBlanks cs with
    | [] => (.flawed (.absent .unfinished), none)
    | c :: rest =>
      if c = '"' then readText rest
      else if c = '[' then
        let (items, rest) := readItems fuel rest
        (.array items, rest)
      else if c = '\x7b' then
        let (members, rest) := readMembers fuel rest
        (.object members, rest)
      else if c = 'n' then readWord .null .null ['u', 'l', 'l'] rest
      else if c = 't' then readWord (.bool true) .bool ['r', 'u', 'e'] rest
      else if c = 'f' then readWord (.bool false) .bool ['a', 'l', 's', 'e'] rest
      else if c = '-' then readNumber true rest
      else if Decimal.isDigit c then readNumber false (c :: rest)
      else (.flawed (.absent .malformed), none)

/-- Reads what follows an opening bracket. -/
def readItems : Nat → List Char → Items × Option (List Char)
  | 0, _ => (.cut .unfinished, none)
  | fuel + 1, cs =>
    match skipBlanks cs with
    | [] => (.cut .unfinished, none)
    | c :: rest =>
      if c = ']' then (.closed, some rest)
      else
        match readValue fuel (c :: rest) with
        | (head, none) => (.item head (.cut .malformed), none)
        | (head, some rest) =>
          let (more, rest) := readMoreItems fuel rest
          (.item head more, rest)

/-- Reads what follows an item. -/
def readMoreItems : Nat → List Char → Items × Option (List Char)
  | 0, _ => (.cut .unfinished, none)
  | fuel + 1, cs =>
    match skipBlanks cs with
    | [] => (.cut .unfinished, none)
    | c :: rest =>
      if c = ']' then (.closed, some rest)
      else if c = ',' then
        match readValue fuel rest with
        | (head, none) => (.item head (.cut .malformed), none)
        | (head, some rest) =>
          let (more, rest) := readMoreItems fuel rest
          (.item head more, rest)
      else (.cut .malformed, none)

/-- Reads what follows an opening brace. -/
def readMembers : Nat → List Char → Members × Option (List Char)
  | 0, _ => (.cut .unfinished, none)
  | fuel + 1, cs =>
    match skipBlanks cs with
    | [] => (.cut .unfinished, none)
    | c :: rest =>
      if c = '\x7d' then (.closed, some rest)
      else readMember fuel (c :: rest)

/-- Reads what follows a member. -/
def readMoreMembers : Nat → List Char → Members × Option (List Char)
  | 0, _ => (.cut .unfinished, none)
  | fuel + 1, cs =>
    match skipBlanks cs with
    | [] => (.cut .unfinished, none)
    | c :: rest =>
      if c = '\x7d' then (.closed, some rest)
      else if c = ',' then readMember fuel rest
      else (.cut .malformed, none)

/-- Reads a member, where one is due, and all that follow it. -/
def readMember : Nat → List Char → Members × Option (List Char)
  | 0, _ => (.cut .unfinished, none)
  | fuel + 1, cs =>
    match skipBlanks cs with
    | [] => (.nameless .unfinished .unfinished, none)
    | c :: rest =>
      if c = '"' then
        match readString rest with
        | (name, none) => (.member name (.flawed (.absent .malformed)) (.cut .malformed), none)
        | (name, some rest) =>
          match readMemberValue fuel rest with
          | (value, none) => (.member name value (.cut .malformed), none)
          | (value, some rest) =>
            let (more, rest) := readMoreMembers fuel rest
            (.member name value more, rest)
      else (.nameless .malformed (readValue fuel (c :: rest)).1.asText, none)

/-- Reads the colon behind a name, and the value. -/
def readMemberValue : Nat → List Char → Reading × Option (List Char)
  | 0, _ => (.flawed (.absent .unfinished), none)
  | fuel + 1, cs =>
    match skipBlanks cs with
    | [] => (.flawed (.absent .unfinished), none)
    | c :: rest =>
      if c = ':' then readValue fuel rest
      else (.flawed (.absent .malformed), none)

end

/-- The fuel that every text of this length can be read with. -/
def readingFuel (cs : List Char) : Nat :=
  4 * cs.length + 4

/-- Reads one value. -/
def Reading.ofChars (cs : List Char) : Reading × Option (List Char) :=
  readValue (readingFuel cs) cs

/-- The text read as a value of some type: the type's own reader decides first, and then nothing but
blanks may be left. -/
def readAs {α : Type} (reader : Reading → Except Fault α) (text : String) : Except Fault α :=
  let (reading, rest) := Reading.ofChars text.toList
  match reader reading with
  | .error fault => .error fault
  | .ok value =>
    match rest.map skipBlanks with
    | some [] => .ok value
    | _ => .error .malformed

mutual

/-- The value that a reading without mistakes and without real numbers denotes. -/
def Reading.toJson? : Reading → Option Json
  | .null => some .null
  | .bool value => some (.bool value)
  | .number (.integer value) => some (.integer value)
  | .number (.real _) => none
  | .string value => some (.string value)
  | .array items => items.toJson?.map .array
  | .object members => members.toJson?.map .object
  | .flawed _ => none

/-- The values of the items. -/
def Items.toJson? : Items → Option (List Json)
  | .closed => some []
  | .cut _ => none
  | .item head rest => do return (← head.toJson?) :: (← rest.toJson?)

/-- The values of the members. -/
def Members.toJson? : Members → Option (List (String × Json))
  | .closed => some []
  | .member (.ok name) value rest => do return (name, ← value.toJson?) :: (← rest.toJson?)
  | _ => none

end

/-- The value that a text denotes. -/
def parse? (text : String) : Option Json :=
  match Reading.ofChars text.toList with
  | (reading, some rest) => if skipBlanks rest = [] then reading.toJson? else none
  | (_, none) => none

end FormatterHost.Json
