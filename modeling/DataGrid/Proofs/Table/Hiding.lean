import DataGrid.Proofs.Table.Basic
import DataGrid.View.PortfolioType

/-!
# Hiding columns as a projection

Hiding columns leaves their headers and cells out of the grid and changes nothing else. What is
hidden is what was named last: columns that were hidden before are shown again.

## Main definitions

* `FilledTable.without`: a filled table without the headers and cells of the named columns
* `Table.IsProjection`: a table is another one with the named columns left out

## Main results

* `Table.withHidden_eq_error_iff`: why names are refused
* `Table.withHidden_hide`: only the names that were given last count
* `Table.fill_hide`: hidden columns are left out of the grid
* `Table.withHidden_isProjection`: hiding columns is a projection
-/

namespace DataGrid

variable {ρ : Type}

/-- The filled row without the cells of the named columns. -/
def FilledRow.without (names : List String) (row : FilledRow) : FilledRow :=
  { row with cells := row.cells.filter (·.column ∉ names) }

/-- The filled table without the headers and cells of the named columns. -/
def FilledTable.without (names : List String) (filled : FilledTable) : FilledTable :=
  { filled with
    headers := filled.headers.filter (·.name ∉ names)
    rows := filled.rows.map (·.without names) }

namespace Table

variable {t : Table ρ} {names : List String}

/-! ## Names that are refused -/

theorem column?_isNone_iff {name : String} :
    (t.column? name).isNone ↔ name ∉ t.columns.map (·.name) := by
  simp [column?]

/-- **Refused names.** Names are refused for the first one that is not the name of a column. -/
theorem withHidden_eq_error_iff {e : TableError} :
    t.withHidden names = .error e ↔
      ∃ before name after, names = before ++ name :: after ∧
        (∀ known ∈ before, known ∈ t.columns.map (·.name)) ∧
          name ∉ t.columns.map (·.name) ∧ e = .unknownColumn name := by
  have hfirst : ∀ name,
      (names.find? fun name => (t.column? name).isNone) = some name ↔
        name ∉ t.columns.map (·.name) ∧ ∃ before after, names = before ++ name :: after ∧
          ∀ known ∈ before, known ∈ t.columns.map (·.name) := by
    intro name
    rw [List.find?_eq_some_iff_append, column?_isNone_iff]
    simp only [Bool.not_eq_true', Bool.eq_false_iff, ne_eq, column?_isNone_iff, not_not]
  rw [withHidden]
  cases hfind : names.find? fun name => (t.column? name).isNone with
  | none =>
    -- no name is refused
    refine iff_of_false (by simp) ?_
    rintro ⟨before, name, after, hnames, hbefore, hname, -⟩
    rw [(hfirst name).mpr ⟨hname, before, after, hnames, hbefore⟩] at hfind
    cases hfind
  | some first =>
    constructor
    · intro h
      obtain rfl := Except.error.inj h
      obtain ⟨hname, before, after, hnames, hbefore⟩ := (hfirst first).mp hfind
      exact ⟨before, first, after, hnames, hbefore, hname, rfl⟩
    · rintro ⟨before, name, after, hnames, hbefore, hname, rfl⟩
      rw [(hfirst name).mpr ⟨hname, before, after, hnames, hbefore⟩] at hfind
      obtain rfl := Option.some.inj hfind
      rfl

/-! ## Hiding again -/

theorem hide_hide (t : Table ρ) (names others : List String) :
    (t.hide names).hide others = t.hide others := by
  rw [hide, hide, hide, List.map_map]
  rfl

/-- **Hiding again.** Only the names that were given last count. -/
theorem withHidden_hide (t : Table ρ) (names others : List String) :
    (t.hide names).withHidden others = t.withHidden others := by
  have hknown : ∀ name, ((t.hide names).column? name).isNone = (t.column? name).isNone := by
    intro name
    rw [Bool.eq_iff_iff, column?_isNone_iff, column?_isNone_iff, map_name_hide]
  simp only [withHidden, hknown]
  split
  · rfl
  · exact congrArg Except.ok (hide_hide t names others)

/-! ## Grids with columns left out -/

theorem visibleColumns_hide (t : Table ρ) (names : List String) :
    (t.hide names).visibleColumns =
      (t.columns.filter (·.name ∉ names)).map (·.withHidden false) := by
  have hshown : ∀ c : Column ρ, (!(c.withHidden (names.contains c.name)).hidden) =
      decide (c.name ∉ names) := by
    intro c
    simp [Column.withHidden]
  rw [visibleColumns, hide, List.filter_map]
  simp only [Function.comp_def, hshown]
  refine List.map_congr_left fun c hc => ?_
  have hname : c.name ∉ names := by simpa using (List.mem_filter.mp hc).2
  rw [Bool.eq_false_iff.mpr fun h => hname (List.contains_iff_mem.mp h)]

/-- Of the table with all columns the unnamed ones are shown. -/
theorem visibleColumns_hide_eq_filter (t : Table ρ) (names : List String) :
    (t.hide names).visibleColumns = (t.hide []).visibleColumns.filter (·.name ∉ names) := by
  rw [visibleColumns_hide, visibleColumns_hide, List.filter_map]
  simp [Function.comp_def, Column.withHidden]

variable [RowView ρ]

theorem fillRow_hide (t : Table ρ) (names : List String) (messages : Resolver) (row : ρ) :
    (t.hide names).fillRow messages row = ((t.hide []).fillRow messages row).without names := by
  rw [fillRow, fillRow, FilledRow.without, visibleColumns_hide_eq_filter, List.filter_map]
  rfl

/-- **Leaving columns out.** The grid of a table with hidden columns is the grid of the table with
all columns, without the headers and cells of the hidden ones. -/
theorem fill_hide (t : Table ρ) (names : List String) (rows : List ρ) (messages : Resolver) :
    (t.hide names).fill rows messages = ((t.hide []).fill rows messages).without names := by
  have hheaders : (t.hide names).visibleColumns.map (header messages) =
      ((t.hide []).visibleColumns.map (header messages)).filter (·.name ∉ names) := by
    rw [visibleColumns_hide_eq_filter, List.filter_map]
    rfl
  have hrows : rows.map ((t.hide names).fillRow messages) =
      (rows.map ((t.hide []).fillRow messages)).map (·.without names) := by
    rw [List.map_map]
    exact List.map_congr_left fun row _ => fillRow_hide t names messages row
  rw [fill, hheaders, hrows]
  rfl

/-! ## Projections -/

/-- **Projection.** The table has the same parts as the other one, all but the named columns are
shown, it does not matter that these are hidden when others are, and its grids are those of the
table with all columns without the headers and cells of the named ones. -/
structure IsProjection (t : Table ρ) (names : List String) (shown : Table ρ) : Prop where
  core : shown.core = t.core
  settings : shown.settings = t.settings
  hidden : ∀ c ∈ shown.columns, c.hidden ↔ c.name ∈ names
  again : ∀ others, shown.withHidden others = t.withHidden others
  grid : ∃ whole, t.withHidden [] = .ok whole ∧ ∀ rows messages,
    shown.fill rows messages = (whole.fill rows messages).without names

/-- **Hiding columns is a projection.** Whatever columns of a table are hidden, those of any names
that are all names of columns can be hidden in their place, which leaves them out of the grid and
changes nothing else. Other names are refused for the first one that no column has. -/
theorem withHidden_isProjection (t : Table ρ) (names : List String) :
    ((∃ shown, t.withHidden names = .ok shown) ↔
        ∀ name ∈ names, name ∈ t.columns.map (·.name)) ∧
      (∀ e, t.withHidden names = .error e ↔
        ∃ before name after, names = before ++ name :: after ∧
          (∀ known ∈ before, known ∈ t.columns.map (·.name)) ∧
            name ∉ t.columns.map (·.name) ∧ e = .unknownColumn name) ∧
      ∀ shown, t.withHidden names = .ok shown → t.IsProjection names shown := by
  refine ⟨?_, fun e => withHidden_eq_error_iff, fun shown h => ?_⟩
  · simp only [withHidden_eq_ok_iff, exists_and_left, exists_eq', and_true]
  · obtain ⟨-, rfl⟩ := withHidden_eq_ok_iff.mp h
    have hwhole : t.withHidden [] = .ok (t.hide []) :=
      withHidden_eq_ok_iff.mpr ⟨by simp, rfl⟩
    exact ⟨core_hide t names, rfl, fun c => hidden_iff_of_mem_hide, withHidden_hide t names,
      t.hide [], hwhole, fill_hide t names⟩

end Table

namespace PortfolioTypeRow

/-- The list of kinds of portfolios with its flag hidden. -/
def withoutFlag : Table PortfolioTypeRow := table.hide ["selectable"]

/-- Names and descriptions are hidden instead of the flag, and of two names that no column has the
first is refused. -/
theorem withHidden_withoutFlag :
    (∃ shown, withoutFlag.withHidden ["description", "name", "description"] = .ok shown ∧
        withoutFlag.IsProjection ["description", "name", "description"] shown ∧
          shown.visibleColumns.map (·.name) =
            ["selectable", "editActionLink", "deleteActionLink"]) ∧
      withoutFlag.withHidden ["name", "color", "size"] = .error (.unknownColumn "color") := by
  have hshown : withoutFlag.withHidden ["description", "name", "description"] =
      .ok (table.hide ["description", "name", "description"]) :=
    Table.withHidden_eq_ok_iff.mpr ⟨by decide, rfl⟩
  obtain ⟨-, -, hprojection⟩ :=
    Table.withHidden_isProjection withoutFlag ["description", "name", "description"]
  obtain ⟨-, hrefused, -⟩ := Table.withHidden_isProjection withoutFlag ["name", "color", "size"]
  refine ⟨⟨_, hshown, hprojection _ hshown, by decide⟩, ?_⟩
  exact (hrefused _).mpr ⟨["name"], "color", ["size"], rfl, by decide, by decide, rfl⟩

end PortfolioTypeRow

end DataGrid
