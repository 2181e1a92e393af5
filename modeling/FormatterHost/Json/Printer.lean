import FormatterHost.Bytes.Basic
import FormatterHost.Json.Basic
import FormatterHost.Number.Decimal

/-!
# Compact JSON text

Values are written without blanks.  Quotation marks, backslashes and the characters below U+0020 are
escaped; every other character stands for itself.
-/

namespace FormatterHost.Json

/-- One character as it stands inside quotation marks. -/
def escapeChar (c : Char) : List Char :=
  if c = '"' then ['\\', '"']
  else if c = '\\' then ['\\', '\\']
  else if c = '\n' then ['\\', 'n']
  else if c = '\r' then ['\\', 'r']
  else if c = '\t' then ['\\', 't']
  else if c = '\x08' then ['\\', 'b']
  else if c = '\x0c' then ['\\', 'f']
  else if c.toNat < 32 then
    ['\\', 'u', '0', '0', Bytes.hexDigit (c.toNat / 16), Bytes.hexDigit (c.toNat % 16)]
  else [c]

/-- A text between quotation marks. -/
def quote (text : List Char) : List Char :=
  '"' :: text.flatMap escapeChar ++ ['"']

mutual

/-- The text of a value. -/
def print : Json → List Char
  | .null => "null".toList
  | .bool true => "true".toList
  | .bool false => "false".toList
  | .integer value => Decimal.signedDigits value
  | .string value => quote value.toList
  | .array [] => ['[', ']']
  | .array (item :: items) => '[' :: print item ++ printItems items
  | .object [] => ['\x7b', '\x7d']
  | .object (member :: members) => '\x7b' :: printMember member ++ printMembers members

/-- The items after the first, each behind a comma, and the closing bracket. -/
def printItems : List Json → List Char
  | [] => [']']
  | item :: items => ',' :: print item ++ printItems items

/-- A name, a colon and the value. -/
def printMember : String × Json → List Char
  | (name, value) => quote name.toList ++ ':' :: print value

/-- The members after the first, each behind a comma, and the closing brace. -/
def printMembers : List (String × Json) → List Char
  | [] => ['\x7d']
  | member :: members => ',' :: printMember member ++ printMembers members

end

/-- The compact text of a value. -/
def render (value : Json) : String :=
  String.ofList (print value)

end FormatterHost.Json
