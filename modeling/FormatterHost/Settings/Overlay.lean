import FormatterHost.Settings.Entries
import FormatterHost.Settings.KeyPath
import FormatterHost.Settings.Node

/-!
# Laying settings over each other

Settings are gathered in one table.  A table that is laid over a table is merged into it entry by
entry; anything else replaces what was there.  A path makes the tables and sequences that it leads
through.
-/

namespace FormatterHost.Overlay

/-- The entries of a tree; anything that is not a table has none. -/
def entriesOf : Node → List (String × Node)
  | .table entries => entries
  | _ => []

mutual

/-- Lays a tree over another one. -/
def lay (upper lower : Node) : Node :=
  match upper with
  | .table entries => layEntries entries lower
  | upper => upper

/-- Lays entries over a tree, one after another.  Keys are stored in lower case. -/
def layEntries : List (String × Node) → Node → Node
  | [], lower => lower
  | (key, node) :: entries, lower =>
    let merged := Entries.update (Text.lower key) (.table []) (lay node) (entriesOf lower)
    layEntries entries (.table merged)

end

/-- Sets the entry of a key in a tree. -/
def setKey (key : String) (value root : Node) : Node :=
  .table (Entries.update key (.table []) (lay value) (entriesOf root))

/-- The items of a tree; anything that is not a sequence has none. -/
def itemsOf : Node → List Node
  | .sequence items => items
  | _ => []

/-- The index that a position denotes in a sequence of a given length. -/
def indexOf (position : Int) (length : Nat) : Nat :=
  if 0 ≤ position then position.toNat else length - position.natAbs

/-- Applies a change to the item at a position, after as many empty items as it takes. -/
def updateItem (position : Int) (change : Node → Node) (items : List Node) : List Node :=
  let index := indexOf position items.length
  let items := items ++ List.replicate (index + 1 - items.length) .nil
  items.modify index change

/-- Sets the part of a tree to which steps lead. -/
def setSteps (value : Node) : List KeyStep → Node → Node
  | [], _ => value
  | [.name key], root => setKey key value root
  | .name key :: steps, root =>
    .table (Entries.update key .nil (setSteps value steps) (entriesOf root))
  | .position position :: steps, root =>
    .sequence (updateItem position (setSteps value steps) (itemsOf root))

/-- Sets the part of a tree to which a key leads. -/
def set (key : String) (value root : Node) : Node :=
  let (name, steps) := KeyPath.ofKey key
  setSteps value (.name name :: steps) root

/-- Sets the parts of a tree to which several keys lead, one after another. -/
def setAll (entries : List (String × Node)) (root : Node) : Node :=
  entries.foldl (fun root (key, value) => set key value root) root

end FormatterHost.Overlay
