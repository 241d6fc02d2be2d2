import DataGrid.Proofs.Column.SkipClass
import DataGrid.Proofs.Table.Basic
import DataGrid.View.PurchaseOrder
import Mathlib.Data.List.Forall2

/-!
# Links of rows and cells

A row links to its address, and so does each of its cells unless the cell has the skip class. The
class is all that a reader of the filled grid has to look at, since the columns of the grid were
made by steps that keep flag and class in agreement.

## Main definitions

* `FilledRow.LinksByClass`: the cells of a row follow its address unless they have the skip class

## Main results

* `Table.linksByClass_fillRow`: rows of tables whose columns agree
* `Table.skipsRowAction_iff_skipClass`: columns that were made by steps, and the cells of the
  tables that come from a draft of such columns
-/

namespace DataGrid

open Markup

variable {ρ : Type}

/-- **Links by class.** The row links to an address. A cell has no address of its own just where it
has the skip class, and otherwise it has the row's. -/
def FilledRow.LinksByClass (row : FilledRow) (address : String) : Prop :=
  row.url = some address ∧ ∀ cell ∈ row.cells,
    (cell.rowAction = none ↔ skipClass ∈ Text.words cell.css) ∧
      (skipClass ∉ Text.words cell.css → cell.rowAction = row.url)

namespace Table

variable [RowView ρ] {t : Table ρ}

/-- The columns of a filled grid agree if those of the draft were made by steps. -/
theorem agrees_of_yields {draft : TableDraft ρ} (hmade : ∀ c ∈ draft.columns, c.Made)
    (h : draft.Yields t) : ∀ c ∈ t.columns, c.Agrees := by
  intro c hc
  obtain ⟨drafted, hdrafted, hsame⟩ := h.exists_of_mem_columns hc
  exact hsame ▸ ((hmade drafted hdrafted).withHidden c.hidden).agrees

/-- **Filling a row.** Where the columns agree, the cells follow the row's address unless they have
the skip class. -/
theorem linksByClass_fillRow (hagrees : ∀ c ∈ t.columns, c.Agrees) {action : ρ → String}
    (haction : t.rowAction = some action) (messages : Resolver) (row : ρ) :
    (t.fillRow messages row).LinksByClass (action row) := by
  have hurl : t.rowUrl? row = some (action row) := by rw [rowUrl?, haction, Option.map_some]
  refine ⟨hurl, fun cell hcell => ?_⟩
  obtain ⟨c, hc, rfl⟩ := List.mem_map.mp hcell
  have hclass := Column.skipClass_mem_valueCss_iff (hagrees c (List.mem_filter.mp hc).1)
  have hcss : (t.cell ⟨t.settings, messages⟩ row c).css = c.valueCss := rfl
  rw [hcss, hclass]
  cases hflag : c.skipsRowAction with
  | true =>
    -- the cell leaves the row's link alone
    exact ⟨iff_of_true (by simp only [cell, hflag, if_true]) rfl, fun h => absurd rfl h⟩
  | false =>
    have hfollows : (t.cell ⟨t.settings, messages⟩ row c).rowAction = t.rowUrl? row := by
      simp only [cell, hflag, Bool.false_eq_true, if_false]
    rw [hfollows, hurl]
    exact ⟨iff_of_false (by simp) (by simp), fun _ => hurl.symm⟩

/-- Without an address for rows, neither a row nor a cell has one. -/
theorem rowAction_fillRow_of_none (haction : t.rowAction = none) (messages : Resolver) (row : ρ) :
    (t.fillRow messages row).url = none ∧
      ∀ cell ∈ (t.fillRow messages row).cells, cell.rowAction = none := by
  have hurl : t.rowUrl? row = none := by rw [rowUrl?, haction, Option.map_none]
  refine ⟨hurl, fun cell hcell => ?_⟩
  obtain ⟨c, -, rfl⟩ := List.mem_map.mp hcell
  simp only [Table.cell, hurl, ite_self]

/-- **Flag, class and link.** Whatever steps a column was made by, its flag is raised just where
its cells have the skip class, which is so where a step raised it; and its cells have the classes
that were set last, with the skip class behind them if it is not among them. So in a table of such
columns the cells follow the row's address just where they do not have the skip class, and have no
address where rows have none. -/
theorem skipsRowAction_iff_skipClass :
    (∀ (start : Column ρ) (steps : List (Column.Step ρ)), start.IsNew →
      ((start.refineAll steps).skipsRowAction ↔
          skipClass ∈ Text.words (start.refineAll steps).valueCss) ∧
        ((start.refineAll steps).skipsRowAction ↔ ∃ step ∈ steps, step.raisesFlag) ∧
          Text.words (start.refineAll steps).valueCss =
            Text.words (Column.lastCss steps) ++
              if (start.refineAll steps).skipsRowAction ∧
                skipClass ∉ Text.words (Column.lastCss steps) then [skipClass] else []) ∧
      ∀ (draft : TableDraft ρ) (t : Table ρ), (∀ c ∈ draft.columns, c.Made) → draft.Yields t →
        ∀ (rows : List ρ) (messages : Resolver),
          (∀ action, draft.rowAction = some action →
            List.Forall₂ (fun row filled => filled.LinksByClass (action row)) rows
              (t.fill rows messages).rows) ∧
            (draft.rowAction = none → ∀ filled ∈ (t.fill rows messages).rows,
              filled.url = none ∧ ∀ cell ∈ filled.cells, cell.rowAction = none) := by
  constructor
  · intro start steps hnew
    have hfresh : start.ownCss = "" ∧ start.skipsRowAction = false := by
      rcases hnew with ⟨_, _, _, rfl⟩ | ⟨_, _, _, rfl⟩ <;> exact ⟨rfl, rfl⟩
    have hown : (start.refineAll steps).ownCss = Column.lastCss steps := by
      rw [Column.ownCss_refineAll, hfresh.1]
      rfl
    have hclass :=
      Column.skipClass_mem_valueCss_iff (Column.agrees_refineAll hnew.agrees steps)
    refine ⟨hclass.symm, ?_, ?_⟩
    · rw [Column.skipsRowAction_refineAll, hfresh.2, Bool.false_or, List.any_eq_true]
    · rw [Column.words_valueCss, hown]
  · intro draft t hmade hyields rows messages
    rw [← hyields.rowAction_eq]
    constructor
    · -- rows are filled one by one
      intro action haction
      exact List.forall₂_map_right_iff.mpr (List.forall₂_same.mpr fun row _ =>
        linksByClass_fillRow (agrees_of_yields hmade hyields) haction messages row)
    · intro haction filled hfilled
      obtain ⟨row, -, rfl⟩ := List.mem_map.mp hfilled
      exact rowAction_fillRow_of_none haction messages row

end Table

namespace PurchaseOrderRow

theorem made_of_mem_columns : ∀ c ∈ columns, c.Made := by
  simp only [columns, List.forall_mem_cons]
  refine ⟨⟨_, [], .inl ⟨_, _, _, rfl⟩, rfl⟩, ⟨_, [.formatter .number], .inl ⟨_, _, _, rfl⟩, rfl⟩,
    ⟨_, [.formatter .list, .valueCss skipClass], .inl ⟨_, _, _, rfl⟩, rfl⟩,
    ⟨_, [.formatter .boolean, .headerCss mediumClass], .inl ⟨_, _, _, rfl⟩, rfl⟩, ?_⟩
  exact fun _ h => nomatch h

/-- An order without lines. -/
def withoutLines : PurchaseOrderRow := ⟨.ofNat 1, "PO-1", false, some .zero, []⟩

/-- In the list of orders all cells but those of lines follow the link to the order. A column keeps
the skip class when other classes are set. -/
theorem linksByClass_withoutLines :
    (∀ c ∈ (draft .standard).columns, c.Made) ∧
      (draft .standard).Yields (draft .standard).toTable ∧
        (∃ filled, ((draft .standard).toTable.fill [withoutLines] .echo).rows = [filled] ∧
          filled.LinksByClass "/purchase-order/1/view" ∧
            filled.cells.map (fun cell => (cell.css, cell.rowAction)) =
              [("", some "/purchase-order/1/view"), ("", some "/purchase-order/1/view"),
                (skipClass, none), ("", some "/purchase-order/1/view")]) ∧
          skipClass ∈ Text.words ((Column.ofField "refId" "ref_id" "").refineAll
            [.valueCss skipClass, .valueCss rightClass] : Column PurchaseOrderRow).valueCss := by
  have hyields : (draft .standard).Yields (draft .standard).toTable :=
    .build (TableDraft.build_eq_ok_iff.mpr ⟨by decide, rfl⟩)
  obtain ⟨hcolumn, htable⟩ := @Table.skipsRowAction_iff_skipClass PurchaseOrderRow _
  have hlinks := (htable _ _ made_of_mem_columns hyields [withoutLines] .echo).1 _ rfl
  refine ⟨made_of_mem_columns, hyields, ⟨_, rfl, ?_, by decide +kernel⟩, ?_⟩
  · exact (List.forall₂_cons.mp hlinks).1
  · obtain ⟨hflag, hraised, -⟩ := hcolumn (.ofField "refId" "ref_id" "")
      [.valueCss skipClass, .valueCss rightClass] (.inl ⟨_, _, _, rfl⟩)
    exact hflag.mp (hraised.mpr ⟨_, List.mem_cons_self, by decide⟩)

end PurchaseOrderRow

end DataGrid
