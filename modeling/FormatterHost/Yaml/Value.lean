import FormatterHost.Number.Scientific
import FormatterHost.Number.Width
import FormatterHost.Settings.Entries
import FormatterHost.Settings.Node
import FormatterHost.Yaml.Tag

/-!
# Values of YAML

A plain scalar is what it looks like, unless a tag says otherwise; quoted and block scalars are
text.  The keys of mappings are texts or integers.
-/

namespace FormatterHost.Yaml

/-- The value of a node.  A node that does not fit its tag has no value: it counts as empty, and as
a key it is passed over. -/
inductive Value where
  | invalid
  | empty
  | bool (value : Bool)
  | integer (value : Int)
  /-- A real number, as it is written. -/
  | real (text : String)
  | text (value : String)
  | sequence (items : List Node)
  | mapping (entries : List (String × Node))
deriving Inhabited

/-- An integer of 64 bits in a given base, with an optional sign. -/
def basedInteger? (base : Nat) (cs : List Char) : Option Int :=
  let (negative, cs) := Scientific.readSign cs
  let digit? (c : Char) : Option Nat := (Bytes.hexValue? c).filter (· < base)
  match cs.mapM digit? with
  | none | some [] => none
  | some digits =>
    let n : Nat := digits.foldl (fun n digit => n * base + digit) 0
    if negative then if n ≤ Width.count 63 then some (-n) else none
    else if n < Width.count 63 then some n else none

/-- Whether a text is written as a real number.  Words for infinity and for what is not a number
start with a point. -/
def isReal (text : String) : Bool :=
  [".inf", ".Inf", ".INF", "+.inf", "+.Inf", "+.INF", "-.inf", "-.Inf", "-.INF", ".nan", ".NaN",
      ".NAN"].contains text
    || (text.toList.any Decimal.isDigit && (Scientific.real? text).isSome)

/-- The integer that a plain scalar looks like. -/
def plainInteger? (text : String) : Option Int :=
  let based :=
    match text.toList with
    | '0' :: 'x' :: cs => basedInteger? 16 cs
    | '0' :: 'o' :: cs => basedInteger? 8 cs
    | '+' :: cs => basedInteger? 10 cs
    | _ => none
  based <|> Scientific.signed? text

namespace Value

/-- The value of a plain scalar without a tag. -/
def ofPlain (text : String) : Value :=
  match plainInteger? text with
  | some n => integer n
  | none =>
    if text = "~" ∨ text = "null" then empty
    else if text = "true" then bool true
    else if text = "false" then bool false
    else if isReal text then real text
    else .text text

/-- The value of a plain scalar with a tag. -/
def ofTagged (tag : Tag) (text : String) : Value :=
  if tag.lead ≠ Tag.coreLead then .text text
  else
    match tag.ending with
    | "bool" =>
      if text = "true" then bool true else if text = "false" then bool false else invalid
    | "int" =>
      match Scientific.signed? text with
      | some n => integer n
      | none => invalid
    | "float" => if isReal text then real text else invalid
    | "null" => if text = "~" ∨ text = "null" then empty else invalid
    | _ => .text text

/-- The settings tree of a value.  Of the real numbers only those with digits are admitted. -/
def node? : Value → Option Node
  | invalid | empty => some .nil
  | bool value => some (.scalar (.bool value) .document)
  | integer value => some (.scalar (.integer value) .document)
  | real written => (Scientific.real? written).map fun x => .scalar (.real x) .document
  | .text value => some (.scalar (.string value) .document)
  | sequence items => some (.sequence items)
  | mapping entries => some (.table entries)

end Value

/-- A key of a mapping. -/
inductive Key where
  | text (value : String)
  | integer (value : Int)
deriving Repr, DecidableEq

namespace Key

/-- The key that a value is. -/
def ofValue? : Value → Option Key
  | .text value => some (text value)
  | .integer value => some (integer value)
  | _ => none

/-- The text of a key. -/
def name : Key → String
  | text value => value
  | integer value => String.ofList (Decimal.signedDigits value)

end Key

/-- The entries of a mapping from its keys and values by turns.  No key may occur twice; of
different keys with the same text the last counts. -/
def entriesOf? (keys : List Key) (entries : List (String × Node)) :
    List Value → Option (List (String × Node))
  | [] => some entries
  | .invalid :: values => entriesOf? keys entries values
  | [_] => some entries
  | key :: value :: values => do
    let key ← Key.ofValue? key
    let node ← value.node?
    if keys.contains key then none
    else entriesOf? (key :: keys) (Entries.put key.name node entries) values

end FormatterHost.Yaml
