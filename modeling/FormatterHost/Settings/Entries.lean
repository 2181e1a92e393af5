/-!
# Entries with keys

The entries of a table stand in the order in which their keys have come up.
-/

namespace FormatterHost.Entries

variable {α : Type}

/-- Applies a change to the entry of a key; `missing` stands for an entry that is not there, and it
is added behind the others. -/
def update (key : String) (missing : α) (change : α → α) :
    List (String × α) → List (String × α)
  | [] => [(key, change missing)]
  | (other, value) :: entries =>
    if other = key then (other, change value) :: entries
    else (other, value) :: update key missing change entries

/-- Puts a value in place of that of a key, or behind the others. -/
def put (key : String) (value : α) : List (String × α) → List (String × α) :=
  update key value fun _ => value

end FormatterHost.Entries
