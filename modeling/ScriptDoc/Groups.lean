import ScriptDoc.Text

namespace ScriptDoc

-- Lists held under keys, in the order in which the keys first came.
abbrev Groups (κ α : Type) := List (κ × List α)

namespace Groups
variable {κ α : Type} [DecidableEq κ]

def append (key : κ) (items : List α) : Groups κ α → Groups κ α
  | [] => [(key, items)]
  | (k, held) :: rest =>
    if k = key then (k, held ++ items) :: rest else (k, held) :: append key items rest

def get (groups : Groups κ α) (key : κ) : List α := (groups.lookup key).getD []

def keys (groups : Groups κ α) : List κ := groups.map (·.1)

-- Each item under its own key.
def ofItems (key : α → κ) (items : List α) : Groups κ α :=
  items.foldl (fun groups a => groups.append (key a) [a]) []

-- Every list of the second added to the first, key by key.
def addAll (groups more : Groups κ α) : Groups κ α :=
  more.foldl (fun acc e => acc.append e.1 e.2) groups

end Groups

def Groups.sortedBy {κ α : Type} (le : κ → κ → Bool) (groups : Groups κ α) : Groups κ α :=
  groups.mergeSort fun a b => le a.1 b.1

def Groups.sorted {α : Type} (groups : Groups Text α) : Groups Text α := groups.sortedBy Text.le

end ScriptDoc
