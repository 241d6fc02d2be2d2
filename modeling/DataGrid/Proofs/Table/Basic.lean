import DataGrid.Proofs.NamedCheck
import DataGrid.Table.Basic
import Mathlib.Data.List.Basic

/-!
# Checked tables and hidden columns

A table that passes the check has one column of each name. Hiding columns changes which columns
are hidden and nothing else.

## Main definitions

* `TableDraft.columnFault?`: what is wrong with a column
* `Table.hide`: a table with the named columns hidden
* `Table.core`: what hiding columns and other settings keep
* `TableDraft.Yields`: the tables that come from a draft

## Main results

* `TableDraft.checkColumns_eq_ok_iff`, `TableDraft.build_eq_ok_iff`: which drafts pass the check
* `TableDraft.build_eq_error_iff`: why a draft is refused
* `Table.withHidden_eq_ok_iff`: which names can be hidden
* `TableDraft.Yields.core_eq`: what all tables that come from a draft have in common
* `TableDraft.Yields.nodup_map_name`: columns of these tables have different names
-/

namespace DataGrid

variable {ρ : Type}

/-! ## The check -/

namespace TableDraft

/-- **Fault of a column.** Its field is not declared. -/
def columnFault? (fields : List String) (c : Column ρ) : Option TableError :=
  match c.source.field? with
  | some field => if field ∈ fields then none else some (.unknownField field c.name)
  | none => none

theorem columnFault?_eq_none_iff {fields : List String} {c : Column ρ} :
    columnFault? fields c = none ↔ ∀ field ∈ c.source.field?, field ∈ fields := by
  rw [columnFault?]
  cases c.source.field? with
  | none => simp
  | some field => simp

theorem checkColumns_eq_checkNamed (fields seen : List String) (columns : List (Column ρ)) :
    checkColumns fields seen columns =
      checkNamed (·.name) .duplicateColumn (columnFault? fields) seen columns := by
  induction columns generalizing seen with
  | nil => rfl
  | cons c rest ih =>
    rw [checkColumns, checkNamed, columnFault?]
    by_cases hseen : c.name ∈ seen
    · simp [hseen]
    cases c.source.field? with
    | none => simp [hseen, ih]
    | some field => by_cases hfield : field ∈ fields <;> simp [hseen, hfield, ih]

/-- Columns pass the check if their names are new and all different, and their fields
declared. -/
theorem checkColumns_eq_ok_iff {fields seen : List String} {columns : List (Column ρ)} :
    checkColumns fields seen columns = .ok () ↔
      ((columns.map (·.name)).Nodup ∧ (columns.map (·.name)).Disjoint seen) ∧
        ∀ c ∈ columns, ∀ field ∈ c.source.field?, field ∈ fields := by
  rw [checkColumns_eq_checkNamed, checkNamed_eq_ok_iff]
  simp only [columnFault?_eq_none_iff]

theorem checkColumns_append (fields seen : List String) (cs ds : List (Column ρ)) :
    checkColumns fields seen (cs ++ ds) =
      (checkColumns fields seen cs).bind fun () =>
        checkColumns fields ((cs.map (·.name)).reverse ++ seen) ds := by
  simp only [checkColumns_eq_checkNamed, checkNamed_append]

theorem checkColumns_nil_eq_ok_iff {fields : List String} {columns : List (Column ρ)} :
    checkColumns fields [] columns = .ok () ↔
      (columns.map (·.name)).Nodup ∧ ∀ c ∈ columns, ∀ field ∈ c.source.field?, field ∈ fields := by
  rw [checkColumns_eq_ok_iff, and_iff_left (List.disjoint_nil_right _)]

/-- **Building.** A draft is built if its identity field and the fields of its columns are
declared and the names of its columns are all different. -/
theorem build_eq_ok_iff [RowView ρ] {draft : TableDraft ρ} {t : Table ρ} :
    draft.build = .ok t ↔
      (draft.idField ∈ RowView.fields ρ ∧ (draft.columns.map (·.name)).Nodup ∧
        ∀ c ∈ draft.columns, ∀ field ∈ c.source.field?, field ∈ RowView.fields ρ) ∧
      draft.toTable = t := by
  rw [← checkColumns_nil_eq_ok_iff, build]
  by_cases hid : draft.idField ∈ RowView.fields ρ
  · rw [if_pos (List.contains_iff_mem.mpr hid)]
    cases checkColumns (RowView.fields ρ) [] draft.columns with
    | ok => simp [Except.map, hid]
    | error e => simp [Except.map]
  · simp [hid]

/-- **Refusal.** A draft is refused for its identity field, or else for the first fault of its
columns. -/
theorem build_eq_error_iff [RowView ρ] {draft : TableDraft ρ} {e : TableError} :
    draft.build = .error e ↔
      (draft.idField ∉ RowView.fields ρ ∧ e = .unknownIdField draft.idField) ∨
        (draft.idField ∈ RowView.fields ρ ∧
          checkColumns (RowView.fields ρ) [] draft.columns = .error e) := by
  rw [build]
  by_cases hid : draft.idField ∈ RowView.fields ρ
  · rw [if_pos (List.contains_iff_mem.mpr hid)]
    cases checkColumns (RowView.fields ρ) [] draft.columns with
    | ok => simp [Except.map, hid]
    | error fault => simp [Except.map, hid]
  · simp [hid, eq_comm]

end TableDraft

/-! ## Hidden columns -/

namespace Table

variable {t : Table ρ} {names : List String}

/-- The table with the named columns hidden and all others shown. -/
def hide (t : Table ρ) (names : List String) : Table ρ :=
  { t with columns := t.columns.map fun c => c.withHidden (names.contains c.name) }

/-- **Hiding columns.** Names can be hidden if all of them are names of columns. -/
theorem withHidden_eq_ok_iff {shown : Table ρ} :
    t.withHidden names = .ok shown ↔
      (∀ name ∈ names, name ∈ t.columns.map (·.name)) ∧ t.hide names = shown := by
  have hknown : (names.find? fun name => (t.column? name).isNone) = none ↔
      ∀ name ∈ names, name ∈ t.columns.map (·.name) := by
    rw [List.find?_eq_none]
    refine forall₂_congr fun name _ => ?_
    simp [column?]
  rw [← hknown, withHidden]
  split
  · -- a name that no column has is refused
    rename_i hfind
    simp [hfind]
  · rename_i hfind
    simp only [hfind, true_and, Except.ok.injEq]
    rfl

/-- Hiding columns keeps their names. -/
theorem map_name_hide (t : Table ρ) (names : List String) :
    (t.hide names).columns.map (·.name) = t.columns.map (·.name) := by
  rw [hide, List.map_map]
  rfl

/-- **What hiding keeps.** The table with all columns shown and the usual settings. -/
def core (t : Table ρ) : Table ρ :=
  { t with columns := t.columns.map (·.withHidden false), settings := {} }

theorem core_hide (t : Table ρ) (names : List String) : (t.hide names).core = t.core := by
  rw [core, hide, List.map_map]
  rfl

theorem core_withSettings (t : Table ρ) (settings : FormatSettings) :
    (t.withSettings settings).core = t.core := rfl

/-- Of a table's columns the named ones are hidden. -/
theorem hidden_iff_of_mem_hide {c : Column ρ} (h : c ∈ (t.hide names).columns) :
    c.hidden ↔ c.name ∈ names := by
  obtain ⟨before, -, rfl⟩ := List.mem_map.mp h
  exact List.contains_iff_mem

end Table

/-! ## Tables of a draft -/

namespace TableDraft

variable [RowView ρ] {draft : TableDraft ρ} {t : Table ρ}

/-- **Tables of a draft.** The table that a draft builds, and what is made of it by hiding columns
and by other settings. -/
inductive Yields (draft : TableDraft ρ) : Table ρ → Prop
  | build {t : Table ρ} (h : draft.build = .ok t) : Yields draft t
  | withHidden {t shown : Table ρ} {names : List String} (h : Yields draft t)
      (hshown : t.withHidden names = .ok shown) : Yields draft shown
  | withSettings {t : Table ρ} (h : Yields draft t) (settings : FormatSettings) :
      Yields draft (t.withSettings settings)

namespace Yields

/-- **What every table of a draft has.** The tables of a draft differ in which columns are hidden
and in settings, and in nothing else. -/
theorem core_eq (h : draft.Yields t) : t.core = draft.toTable.core := by
  -- Induction on how the table is made; no step changes what hiding and settings keep.
  induction h with
  | build h =>
    obtain ⟨-, rfl⟩ := build_eq_ok_iff.mp h
    rfl
  | withHidden _ hshown ih =>
    obtain ⟨-, rfl⟩ := Table.withHidden_eq_ok_iff.mp hshown
    rw [Table.core_hide, ih]
  | withSettings _ settings ih => rw [Table.core_withSettings, ih]

/-- The address of rows is the draft's. -/
theorem rowAction_eq (h : draft.Yields t) : t.rowAction = draft.rowAction :=
  congrArg Table.rowAction h.core_eq

/-- The columns are the draft's, hidden or shown. -/
theorem exists_of_mem_columns (h : draft.Yields t) {c : Column ρ} (hc : c ∈ t.columns) :
    ∃ drafted ∈ draft.columns, drafted.withHidden c.hidden = c := by
  have hcore : c.withHidden false ∈ draft.toTable.core.columns :=
    h.core_eq ▸ List.mem_map_of_mem hc
  obtain ⟨drafted, hdrafted, hsame⟩ := List.mem_map.mp hcore
  have hhidden := congrArg (Column.withHidden c.hidden) hsame
  exact ⟨drafted, hdrafted, hhidden⟩

/-- A column that is shown is a column of the draft in all that cells are made of. -/
theorem exists_of_mem_visibleColumns (h : draft.Yields t) {c : Column ρ}
    (hc : c ∈ t.visibleColumns) :
    ∃ drafted ∈ draft.columns, drafted.name = c.name ∧
      drafted.skipsRowAction = c.skipsRowAction ∧ drafted.render = c.render := by
  obtain ⟨drafted, hdrafted, hsame⟩ := h.exists_of_mem_columns (List.mem_filter.mp hc).1
  have hname := congrArg Column.name hsame
  have hskips := congrArg Column.skipsRowAction hsame
  have hrender := congrArg Column.render hsame
  exact ⟨drafted, hdrafted, hname, hskips, hrender⟩

/-- The names of the columns are the draft's. -/
theorem map_name_columns (h : draft.Yields t) :
    t.columns.map (·.name) = draft.columns.map (·.name) := by
  have hcore : t.core.columns.map (·.name) = draft.toTable.core.columns.map (·.name) := by
    rw [h.core_eq]
  rwa [Table.core, Table.core, List.map_map, List.map_map] at hcore

/-- No two columns have one name. -/
theorem nodup_map_name (h : draft.Yields t) : (t.columns.map (·.name)).Nodup := by
  rw [h.map_name_columns]
  -- the draft was built at the start, so its names are all different
  induction h with
  | build h => exact (build_eq_ok_iff.mp h).1.2.1
  | withHidden _ _ ih => exact ih
  | withSettings _ _ ih => exact ih

end Yields

end TableDraft

end DataGrid
