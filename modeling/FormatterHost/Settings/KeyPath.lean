import FormatterHost.Number.Decimal
import FormatterHost.Number.Width
import FormatterHost.Text.Lowercase

/-!
# Key paths

A key can lead into a tree: a name, and behind it further names after dots and positions in
brackets.
-/

namespace FormatterHost

/-- A part of a key path. -/
inductive KeyStep where
  | name (name : String)
  /-- A position; negative ones count from the end. -/
  | position (position : Int)
deriving Repr, DecidableEq

namespace KeyPath

/-- The characters of names. -/
def isNameChar (c : Char) : Bool :=
  c.isAlphanum || c == ' ' || c == '_' || c == '-'

/-- The blanks that may surround a position. -/
def isBlank (c : Char) : Bool :=
  c == ' ' || c == '\t'

/-- A name, which is stored in lower case, and what follows it. -/
def readName? (cs : List Char) : Option (String × List Char) :=
  match cs.takeWhile isNameChar with
  | [] => none
  | name => some (Text.lower (String.ofList name), cs.dropWhile isNameChar)

/-- A position with its closing bracket, and what follows. -/
def readPosition? (cs : List Char) : Option (Int × List Char) :=
  let cs := cs.dropWhile isBlank
  let (negative, cs) :=
    match cs with
    | '-' :: rest => (true, rest)
    | rest => (false, rest)
  let (digits, rest) := Decimal.span cs
  match digits, rest.dropWhile isBlank with
  | [], _ => none
  | _, ']' :: rest =>
    let value := Decimal.value digits
    if value < Width.count 63 then some (if negative then -(value : Int) else value, rest)
    else if negative && value = Width.count 63 then some (-(value : Int), rest)
    else none
  | _, _ => none

/-- The steps behind the first name. -/
def readSteps? : Nat → List Char → Option (List KeyStep)
  | _, [] => some []
  | 0, _ :: _ => none
  | fuel + 1, '.' :: cs =>
    match readName? cs with
    | some (name, rest) => (readSteps? fuel rest).map (.name name :: ·)
    | none => none
  | fuel + 1, '[' :: cs =>
    match readPosition? cs with
    | some (position, rest) => (readSteps? fuel rest).map (.position position :: ·)
    | none => none
  | _ + 1, _ :: _ => none

/-- The path that a key denotes: its first name and the steps behind it. -/
def ofKey? (key : String) : Option (String × List KeyStep) :=
  match readName? key.toList with
  | some (name, rest) => (readSteps? rest.length rest).map (name, ·)
  | none => none

/-- The path of a key; a key that denotes no path is a name as a whole. -/
def ofKey (key : String) : String × List KeyStep :=
  (ofKey? key).getD (Text.lower key, [])

end KeyPath

end FormatterHost
