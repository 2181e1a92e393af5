import FormatterHost.Toml.Number
import FormatterHost.Toml.Table

/-!
# TOML documents

A document is read line by line: keys with values go into the table of the last header, and headers
open the tables they name.
-/

namespace FormatterHost.Toml

/-- The nesting of values that is refused. -/
def depthLimit : Nat := 80

mutual

/-- A value, `depth` levels inside others. -/
def value? : Nat → (depth : Nat) → List Char → Option (Item × List Char)
  | 0, _, _ => none
  | _ + 1, _, [] => none
  | fuel + 1, depth, c :: cs =>
    if c = '"' || c = '\'' then do
      let (text, rest) ← string? (c :: cs)
      return (.scalar (.string text), rest)
    else if c = '[' then
      if depth + 1 < depthLimit then do
        let (items, rest) ← items? fuel (depth + 1) (skipLines cs.length cs)
        return (.array items, rest)
      else none
    else if c = '\x7b' then
      if depth + 1 < depthLimit then
        match skipBlanks cs with
        | '\x7d' :: rest => some (.inline [], rest)
        | cs => do
          let (entries, rest) ← members? fuel (depth + 1) [] cs
          return (.inline entries, rest)
      else none
    else if c = 't' then
      match cs with
      | 'r' :: 'u' :: 'e' :: rest => some (.scalar (.bool true), rest)
      | _ => none
    else if c = 'f' then
      match cs with
      | 'a' :: 'l' :: 's' :: 'e' :: rest => some (.scalar (.bool false), rest)
      | _ => none
    else do
      let (number, rest) ← number? (c :: cs)
      return (.scalar number, rest)

/-- The items of an array, behind its bracket or a comma and line ends. -/
def items? : Nat → (depth : Nat) → List Char → Option (List Item × List Char)
  | 0, _, _ => none
  | _ + 1, _, [] => none
  | fuel + 1, depth, c :: cs =>
    if c = ']' then some ([], cs)
    else do
      let (item, rest) ← value? fuel depth (c :: cs)
      match skipLines rest.length rest with
      | ',' :: rest => do
        let (items, rest) ← items? fuel depth (skipLines rest.length rest)
        return (item :: items, rest)
      | ']' :: rest => return ([item], rest)
      | _ => none

/-- The members of a table that is a value, added to `entries`. -/
def members? : Nat → (depth : Nat) → Entries → List Char → Option (Entries × List Char)
  | 0, _, _, _ => none
  | fuel + 1, depth, entries, cs => do
    let (keys, rest) ← dottedKey? (cs.length + 1) cs
    let '=' :: rest := rest | none
    let (item, rest) ← value? fuel depth (skipBlanks rest)
    let (path, key) := splitLast keys
    let entries ← addKeyValue? path key item entries
    match skipBlanks rest with
    | ',' :: rest => members? fuel depth entries rest
    | '\x7d' :: rest => return (entries, rest)
    | _ => none

end

/-- A document that has been read up to some line: the tables that are complete, and the one to
which lines add. -/
structure State where
  root : Entries := []
  path : List String := []
  /-- Whether the table at hand is an element of an array of tables. -/
  isElement : Bool := false
  current : Entries := []

namespace State

/-- Adds the table at hand to an array of tables. -/
def addElement (key : String) (element : Entries) (entries : Entries) : Option Entries :=
  match entries.lookup key with
  | none => some (entries ++ [(key, .tables [element])])
  | some (.tables elements) => some (Entries.put key (.tables (elements ++ [element])) entries)
  | some _ => none

/-- The document with the table at hand in its place. -/
def close? (state : State) : Option Entries :=
  match state.path with
  | [] => some state.current
  | path =>
    let (path, key) := splitLast path
    let act (_ : TableOrigin) (entries : Entries) : Option (Entries × Unit) :=
      if state.isElement then (addElement key state.current entries).map (·, ())
      else (addItem? key (.table .header state.current) entries).map (·, ())
    (within false act path .header state.root).map (·.1)

/-- Opens the table that a header names.  A table that other headers only lead through can still be
opened, with the entries it has. -/
def openTable? (state : State) (keys : List String) : Option State := do
  let root ← state.close?
  let (path, key) := splitLast keys
  let act (_ : TableOrigin) (entries : Entries) : Option (Entries × Entries) :=
    match entries.lookup key with
    | none => some (entries, [])
    | some (.table .passage inner) => some (entries.filter (·.1 != key), inner)
    | some _ => none
  let (root, current) ← within false act path .header root
  return ⟨root, keys, false, current⟩

/-- Opens a further element of the array of tables that a header names. -/
def openElement? (state : State) (keys : List String) : Option State := do
  let root ← state.close?
  let (path, key) := splitLast keys
  let act (_ : TableOrigin) (entries : Entries) : Option (Entries × Unit) :=
    match entries.lookup key with
    | none => some (entries ++ [(key, .tables [])], ())
    | some (.tables _) => some (entries, ())
    | some _ => none
  let (root, _) ← within false act path .header root
  return ⟨root, keys, true, []⟩

/-- Adds the line `keys = item`. -/
def addLine? (state : State) (keys : List String) (item : Item) : Option State := do
  let (path, key) := splitLast keys
  return { state with current := ← addKeyValue? path key item state.current }

end State

/-- Reads one line that is not empty. -/
def line? (state : State) : List Char → Option (State × List Char)
  | '[' :: '[' :: cs => do
    let (keys, rest) ← dottedKey? (cs.length + 1) cs
    let ']' :: ']' :: rest := rest | none
    return (← state.openElement? keys, ← restOfLine? rest)
  | '[' :: cs => do
    let (keys, rest) ← dottedKey? (cs.length + 1) cs
    let ']' :: rest := rest | none
    return (← state.openTable? keys, ← restOfLine? rest)
  | cs => do
    let (keys, rest) ← dottedKey? (cs.length + 1) cs
    let '=' :: rest := rest | none
    let rest := skipBlanks rest
    let (item, rest) ← value? (2 * rest.length + 2) 0 rest
    return (← state.addLine? keys item, ← restOfLine? rest)

/-- Reads the lines of a document. -/
def lines? : Nat → State → List Char → Option State
  | 0, _, _ => none
  | fuel + 1, state, cs =>
    match skipLines cs.length cs with
    | [] => some state
    | cs =>
      match line? state cs with
      | some (state, rest) => lines? fuel state rest
      | none => none

/-- The settings tree of a document, at whose start a byte order mark may stand. -/
def node? (text : String) : Option Node :=
  let cs :=
    match text.toList with
    | '\uFEFF' :: cs => cs
    | cs => cs
  match lines? (cs.length + 1) {} cs with
  | some state => state.close?.map fun entries => .table (entryNodes entries)
  | none => none

end FormatterHost.Toml
