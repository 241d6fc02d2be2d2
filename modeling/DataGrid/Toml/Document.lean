import DataGrid.Toml.Scalar

/-!
# TOML tables under construction

The pairs and headers of a text build up a tree of tables. No table is defined twice: a
header opens a table that is new or has only been passed through on the way to another one,
and a dotted key extends only tables that dotted keys made.

## Main definitions

* `Node`: a value, a table or a row of tables under construction
* `Node.alter`: a change of the table at the end of a path
* `Node.addPair`: a pair with a dotted key
* `Document`: the tree and the table that the last header opened
* `Document.openTable`, `Document.openItem`, `Document.addPair`: the lines of a text
* `Node.valueOf`, `Document.members`: what has been built
-/

namespace DataGrid.Toml

/-- How a table came to be. -/
inductive Origin where
  /-- By a header of its own, as an item of a row, or as the whole. -/
  | header
  /-- On the way to a table that a header names. -/
  | route
  /-- By a dotted key. -/
  | dotted
  deriving Repr, DecidableEq

/-- **Node.** The items of a row of tables stand in reverse. -/
inductive Node where
  | value (v : Value)
  | table (origin : Origin) (members : List (String × Node))
  | row (items : List Node)
  deriving Repr

/-- The members of a table under construction. -/
abbrev Members := List (String × Node)

/-- A key: the names of the tables on the way, and the last name. -/
structure Key where
  path : List String
  name : String
  deriving Repr, DecidableEq

namespace Node

/-- Members with a node for a name, in its old place or at the end. -/
def put (name : String) (node : Node) : Members → Members
  | [] => [(name, node)]
  | (other, old) :: rest =>
    if name = other then (name, node) :: rest else (other, old) :: put name node rest

/-- **Change at the end of a path.** Tables that are missing on the way are made. A row stands
for its last table. Dotted keys do not lead into tables that have headers. -/
def alter (dotted : Bool) (change : Origin → Members → Option Members) :
    List String → Origin → Members → Option Members
  | [], origin, members => change origin members
  | name :: path, _, members =>
    match members.lookup name with
    | none => do
      let origin := if dotted then .dotted else .route
      return put name (.table origin (← alter dotted change path origin [])) members
    | some (.table origin inner) =>
      if dotted ∧ origin = .header then none
      else do return put name (.table origin (← alter dotted change path origin inner)) members
    | some (.row (.table origin last :: earlier)) => do
      let last ← alter dotted change path origin last
      return put name (.row (.table origin last :: earlier)) members
    | some _ => none

/-- A pair put into the table at the end of the path of its key. That table belongs to dotted
keys exactly if there is a path. -/
def addPair (key : Key) (v : Value) (origin : Origin) (members : Members) : Option Members :=
  alter true (fun origin members =>
    if (origin = .dotted ↔ key.path ≠ []) ∧ (members.lookup key.name).isNone then
      some (put key.name (.value v) members)
    else none) key.path origin members

mutual

/-- The value of a node. -/
def valueOf : Node → Value
  | .value v => v
  | .table _ members => .table (valuesOf members)
  | .row items => .array (rowOf items)

/-- The values of members. -/
def valuesOf : List (String × Node) → List (String × Value)
  | [] => []
  | (name, node) :: rest => (name, valueOf node) :: valuesOf rest

/-- The values of the items of a row, which stand in reverse. -/
def rowOf : List Node → List Value
  | [] => []
  | node :: rest => rowOf rest ++ [valueOf node]

end

end Node

/-- **Document.** -/
structure Document where
  root : Members := []
  /-- The way to the table that the last header opened. -/
  current : List String := []
  deriving Repr

namespace Document

/-- A document with a changed table, which is reached by names of headers. -/
def alter (document : Document) (path : List String)
    (change : Origin → Members → Option Members) : Option Members :=
  Node.alter false change path .header document.root

/-- **Pair.** A document with a pair in its current table. -/
def addPair (document : Document) (key : Key) (v : Value) : Option Document := do
  return { document with root := ← document.alter document.current (Node.addPair key v) }

/-- **Header of a table.** The table is new, or has only been passed through. -/
def openTable (document : Document) (key : Key) : Option Document := do
  let root ← document.alter key.path fun _ members =>
    match members.lookup key.name with
    | none => some (Node.put key.name (.table .header []) members)
    | some (.table .route inner) => some (Node.put key.name (.table .header inner) members)
    | some _ => none
  return ⟨root, key.path ++ [key.name]⟩

/-- **Header of an item.** A new table at the end of a row, which may be new. -/
def openItem (document : Document) (key : Key) : Option Document := do
  let root ← document.alter key.path fun _ members =>
    match members.lookup key.name with
    | none => some (Node.put key.name (.row [.table .header []]) members)
    | some (.row items) => some (Node.put key.name (.row (.table .header [] :: items)) members)
    | some _ => none
  return ⟨root, key.path ++ [key.name]⟩

/-- The members of the whole document. -/
def members (document : Document) : List (String × Value) := Node.valuesOf document.root

end Document

end DataGrid.Toml
