/-!
# Dictionaries

Entries by name, sorted by the code points of their names, each name once.

## Main definitions

* `Dictionary`: entries with their names
* `Dictionary.insert`, `Dictionary.erase`: one entry put in or taken out
* `Dictionary.ofList`: entries put in one after the other
* `Dictionary.modify?`: one entry changed
-/

namespace DataGrid

/-- **Dictionary.** Entries sorted by name. They are looked up by `List.lookup`. -/
abbrev Dictionary (α : Type) := List (String × α)

namespace Dictionary

variable {α : Type}

/-- A dictionary with one more entry, in place of an entry of that name. -/
def insert (name : String) (value : α) : Dictionary α → Dictionary α
  | [] => [(name, value)]
  | (other, old) :: rest =>
    if name < other then (name, value) :: (other, old) :: rest
    else if name = other then (name, value) :: rest
    else (other, old) :: insert name value rest

/-- The dictionary of entries; of two entries of one name the later one counts. -/
def ofList (entries : List (String × α)) : Dictionary α :=
  entries.foldl (fun sorted (name, value) => insert name value sorted) []

/-- A dictionary without the entry of a name. -/
def erase (name : String) (entries : Dictionary α) : Dictionary α :=
  entries.filter fun (other, _) => other ≠ name

/-- A dictionary in which the entry of a name is changed, if there is one. -/
def modify? (name : String) (change : α → α) (entries : Dictionary α) :
    Option (Dictionary α) :=
  (entries.lookup name).map fun value => insert name (change value) entries

/-- The names of the entries that satisfy a predicate, in order. -/
def namesWhere (p : α → Bool) (entries : Dictionary α) : List String :=
  (entries.filter fun (_, value) => p value).map Prod.fst

end Dictionary

end DataGrid
