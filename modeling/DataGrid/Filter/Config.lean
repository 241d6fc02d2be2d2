import DataGrid.Filter.State

/-!
# Filters

A filter lists the columns that can be filtered and sorted. Columns whose values are known
only after loading bring a query with them, which filters and orders loaded entities.

## Main definitions

* `PostQuery`: a test against a submitted value, and an order
* `FilterDraft`, `FilterDraft.build`: what a filter is made of, and the check
* `FilterConfig`: a checked filter
* `FilterConfig.defaultState`, `FilterConfig.initialSort`: the selection before any choice
* `FilterConfig.read`: the selection that a text stands for
* `FilterConfig.applyPostQuery`: loaded entities, filtered and ordered
-/

namespace DataGrid

open Json

/-- **Post query.** -/
structure PostQuery (ε : Type) where
  /-- Whether an entity meets a submitted value. -/
  test : ε → Json → Bool
  /-- The ascending order of two entities. -/
  compare : ε → ε → Ordering

/-! ## Errors -/

/-- **Filter error.** Why a draft is refused. -/
inductive FilterError where
  | duplicateFilter (name : String)
  | invalidFieldPath (path column : String)
  deriving Repr, DecidableEq

/-- The wording of an error. -/
def FilterError.message : FilterError → String
  | duplicateFilter name => "Duplicate filter column '" ++ name ++ "'"
  | invalidFieldPath path column =>
    "Invalid field path '" ++ path ++ "' for filter column '" ++ column ++ "'"

/-- **Selection error.** Why a text is refused as a selection. -/
inductive SelectionError where
  /-- The text is not the JSON form of a state. -/
  | unreadable (fault : Fault)
  /-- The filter has no such column. -/
  | unknownFilterColumn (name : String)
  deriving Repr, DecidableEq

/-- The wording for a column that the filter does not have. -/
def SelectionError.unknownMessage (name : String) : String :=
  "Unknown filter column '" ++ name ++ "'"

/-! ## Filters -/

/-- **Filter.** A filter that has been checked. -/
structure FilterConfig (ε : Type) where
  descriptors : List FilterDescriptor
  /-- The post queries by the names of their columns. -/
  postQueries : List (String × PostQuery ε)

/-- **Draft.** What a filter is made of. -/
structure FilterDraft (ε : Type) where
  descriptors : List FilterDescriptor := []
  postQueries : List (String × PostQuery ε) := []

namespace FilterDraft

variable {ε : Type}

/-- The draft with a column at the end. -/
def column (d : FilterDescriptor) (draft : FilterDraft ε) : FilterDraft ε :=
  { draft with descriptors := draft.descriptors ++ [d] }

/-- The draft with a column at the end that brings a post query. -/
def postQueryColumn (d : FilterDescriptor) (q : PostQuery ε) (draft : FilterDraft ε) :
    FilterDraft ε :=
  ⟨draft.descriptors ++ [d], draft.postQueries ++ [(d.name, q)]⟩

/-- The draft with columns at the end. -/
def columnsFrom (ds : List FilterDescriptor) (draft : FilterDraft ε) : FilterDraft ε :=
  { draft with descriptors := draft.descriptors ++ ds }

/-- The check of descriptors from the left, given the names before them. A repeated name is
found before a bad path. -/
def check (seen : List String) : List FilterDescriptor → Except FilterError Unit
  | [] => .ok ()
  | d :: rest =>
    if seen.contains d.name then .error (.duplicateFilter d.name)
    else if isFieldPath d.fieldPath then check (d.name :: seen) rest
    else .error (.invalidFieldPath d.fieldPath d.name)

/-- **Building.** The filter of a draft, if the draft passes the check. -/
def build (draft : FilterDraft ε) : Except FilterError (FilterConfig ε) := do
  check [] draft.descriptors
  return ⟨draft.descriptors, draft.postQueries⟩

end FilterDraft

namespace FilterConfig

variable {ε : Type}

/-- The descriptor with a name. -/
def descriptor? (config : FilterConfig ε) (name : String) : Option FilterDescriptor :=
  config.descriptors.find? (·.name == name)

/-- The post query of the column with a name. -/
def postQuery? (config : FilterConfig ε) (name : String) : Option (PostQuery ε) :=
  config.postQueries.lookup name

/-- Whether the column with a name has a post query. -/
def hasPostQuery (config : FilterConfig ε) (name : String) : Bool :=
  (config.postQuery? name).isSome

/-- The JSON form of a filter. -/
def encode (config : FilterConfig ε) : Json :=
  .object [("columns", .array (config.descriptors.map FilterDescriptor.encode))]

/-- The written form of a filter. -/
def toText (config : FilterConfig ε) : String := config.encode.text

/-! ## Selections -/

/-- The selection that a descriptor starts with. -/
def startingState (d : FilterDescriptor) : ColumnState where
  displayed := d.displayed || d.mandatory
  filtered := false
  value := d.widget.defaultValue
  sort := d.sort

/-- **Default state.** The selection before any choice. -/
def defaultState (config : FilterConfig ε) : FilterState :=
  ⟨Dictionary.ofList (config.descriptors.map fun d => (d.name, startingState d))⟩

/-- The first column that starts sorted, with its status. -/
def initialSort (config : FilterConfig ε) : Option (String × SortStatus) :=
  (config.descriptors.find? (·.sort.isSorted)).map fun d => (d.name, d.sort)

/-- **Reading a selection.** The selection that a text stands for. Of the columns that the
filter does not have, the first by name is refused. -/
def read (config : FilterConfig ε) (text : String) : Except SelectionError FilterState :=
  match decode FilterState.decode text with
  | .error fault => .error (.unreadable fault)
  | .ok state =>
    match state.columns.find? fun (name, _) => (config.descriptor? name).isNone with
    | some (name, _) => .error (.unknownFilterColumn name)
    | none => .ok state

/-! ## Loaded entities -/

/-- Whether an entity meets the submitted values of all filtered columns that have a post
query. -/
def accepts (config : FilterConfig ε) (state : FilterState) (entity : ε) : Bool :=
  config.descriptors.all fun d =>
    match state.column? d.name, config.postQuery? d.name with
    | some column, some query => !column.filtered || query.test entity column.value
    | _, _ => true

/-- The first column that a selection sorts by, in the order of the filter. -/
def sortColumn (config : FilterConfig ε) (state : FilterState) : Option (String × SortStatus) :=
  config.descriptors.findSome? fun d =>
    match state.column? d.name with
    | some column => if column.sort.isSorted then some (d.name, column.sort) else none
    | none => none

/-- Whether an entity may stand before another one, by an order or its reverse. -/
def precedes (query : PostQuery ε) (sort : SortStatus) (a b : ε) : Bool :=
  match sort with
  | .descending => (query.compare a b).swap.isLE
  | _ => (query.compare a b).isLE

/-- **Post query.** The entities that meet the selection. They are put in order by the column
that is sorted by if it has a post query; entities that compare equal keep their order. -/
def applyPostQuery (config : FilterConfig ε) (entities : List ε) (state : FilterState) :
    List ε :=
  let kept := entities.filter (config.accepts state)
  match config.sortColumn state with
  | none => kept
  | some (name, sort) =>
    match config.postQuery? name with
    | none => kept
    | some query => kept.mergeSort (precedes query sort)

end FilterConfig

end DataGrid
