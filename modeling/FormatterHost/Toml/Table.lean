import FormatterHost.Settings.Entries
import FormatterHost.Settings.Node

/-!
# Tables of TOML

A table may come about in several ways: by a header, as a table that a header leads through, by a
key with dots, or as a value.  How it came about decides what may be added to it later.
-/

namespace FormatterHost.Toml

/-- How a table has come about. -/
inductive TableOrigin where
  /-- By a header of its own, or as the document itself. -/
  | header
  /-- A header leads through it. -/
  | passage
  /-- A key with dots leads through it. -/
  | dotted
deriving Repr, DecidableEq

/-- An item of a document. -/
inductive Item where
  | scalar (value : Scalar)
  | array (items : List Item)
  /-- A table that is a value; it is complete. -/
  | inline (entries : List (String × Item))
  | table (origin : TableOrigin) (entries : List (String × Item))
  /-- The tables of an array that headers add to, each with its entries. -/
  | tables (elements : List (List (String × Item)))
deriving Inhabited

/-- The entries of a table. -/
abbrev Entries := List (String × Item)

mutual

/-- The settings tree of an item. -/
def Item.node : Item → Node
  | .scalar value => .scalar value .document
  | .array items => .sequence (nodes items)
  | .inline entries => .table (entryNodes entries)
  | .table _ entries => .table (entryNodes entries)
  | .tables elements => .sequence (tableNodes elements)

/-- The settings trees of items. -/
def nodes : List Item → List Node
  | [] => []
  | item :: items => item.node :: nodes items

/-- The settings trees of entries. -/
def entryNodes : List (String × Item) → List (String × Node)
  | [] => []
  | (key, item) :: entries => (key, item.node) :: entryNodes entries

/-- The settings trees of tables. -/
def tableNodes : List (List (String × Item)) → List Node
  | [] => []
  | entries :: rest => .table (entryNodes entries) :: tableNodes rest

end

/-- Acts on the table to which a path leads, in a table that came about in a given way.  Tables on
the path that are not there yet are made; those that headers have completed are closed to keys with
dots; in an array of tables the path leads on through the last one. -/
def within {α : Type} (dotted : Bool) (act : TableOrigin → Entries → Option (Entries × α)) :
    List String → TableOrigin → Entries → Option (Entries × α)
  | [], origin, entries => act origin entries
  | key :: path, _, entries =>
    match entries.lookup key with
    | none => do
      let origin := if dotted then TableOrigin.dotted else .passage
      let (inner, result) ← within dotted act path origin []
      return (entries ++ [(key, .table origin inner)], result)
    | some (.table origin inner) =>
      if dotted && origin = .header then none
      else do
        let (inner, result) ← within dotted act path origin inner
        return (Entries.put key (.table origin inner) entries, result)
    | some (.tables elements) =>
      match elements.reverse with
      | last :: before => do
        let (last, result) ← within dotted act path .header last
        return (Entries.put key (.tables (last :: before).reverse) entries, result)
      | [] => none
    | some _ => none

/-- Adds an entry for a new key. -/
def addItem? (key : String) (item : Item) (entries : Entries) : Option Entries :=
  match entries.lookup key with
  | none => some (entries ++ [(key, item)])
  | some _ => none

/-- Adds an item under a key with dots: `path` and then `key`.  The table it is added to must have
come about by the same dots, or be the table at hand if there are none. -/
def addKeyValue? (path : List String) (key : String) (item : Item) (entries : Entries) :
    Option Entries :=
  let act (origin : TableOrigin) (entries : Entries) : Option (Entries × Unit) :=
    if decide (origin = .dotted) != path.isEmpty then (addItem? key item entries).map (·, ())
    else none
  (within true act path .header entries).map (·.1)

/-- Splits a path into its last part and those before it. -/
def splitLast : List String → List String × String
  | [] => ([], "")
  | [key] => ([], key)
  | key :: keys =>
    let (path, last) := splitLast keys
    (key :: path, last)

end FormatterHost.Toml
