import DataGrid.Proofs.Attribute.Basic
import DataGrid.Proofs.Formatter.Skeleton
import DataGrid.Proofs.Table.Basic
import DataGrid.View.Actor
import DataGrid.View.LineItem
import DataGrid.View.OrgUnit
import DataGrid.View.Portfolio
import DataGrid.View.PortfolioType
import DataGrid.View.PurchaseOrder
import DataGrid.View.Stakeholder

/-!
# Messages in the cells of lists

A message that enters a cell is text, so it should not have a say in where tags and attribute values
of the cell begin and end. Confirmation prompts are escaped and have none. The kind of an
expenditure is written as its message is, so there the message decides.

## Main definitions

* `FilledTable.skeletons`: the skeletons of the cells of a filled table
* `Column.TakesMessagesAsText`, `Table.TakesMessagesAsText`: messages change no skeleton

## Main results

* `Table.skeletons_fill_eq_iff`: when two resolvers fill cells of the same skeletons
* `TableDraft.Yields.takesMessagesAsText`: tables whose columns are not written in ways of their own
* `LineItemRow.skeletons_fill_eq_iff`: the messages that the list of line items depends on
* `takesMessagesAsText_of_views`: what messages change in the eight lists
-/

namespace DataGrid

open Markup

/-- **Skeletons of a filled table.** Those of its cells, row by row. -/
def FilledTable.skeletons (filled : FilledTable) : List (List (List Char)) :=
  filled.rows.map fun row => row.cells.map fun cell => skeleton cell.html

variable {ρ : Type}

/-! ## Formatters and columns -/

/-- Formatters that are not of their own kind take messages as text. -/
theorem Formatter.skeleton_apply_messages {f : Formatter ρ} (h : f.kind ≠ "custom") (row : ρ)
    (v : Value) (settings : FormatSettings) (messages other : Resolver) :
    skeleton (f.apply row v ⟨settings, messages⟩) =
      skeleton (f.apply row v ⟨settings, other⟩) := by
  cases f with
  | linkWithConfirmation template key url =>
    rw [skeleton_linkWithConfirmation, skeleton_linkWithConfirmation]
  | custom render => exact absurd rfl h
  -- no other formatter asks for a message
  | plain | boolean | date | number | list | reference | image | stringFormat => rfl

variable [RowView ρ]

/-- **Messages as text.** The skeleton of each cell of the column is the same for all messages. -/
def Column.TakesMessagesAsText (c : Column ρ) : Prop :=
  ∀ (row : ρ) (settings : FormatSettings) (messages other : Resolver),
    skeleton (c.render row ⟨settings, messages⟩) = skeleton (c.render row ⟨settings, other⟩)

/-- The skeletons of all cells of the table are the same for all messages. -/
def Table.TakesMessagesAsText (t : Table ρ) : Prop :=
  ∀ (rows : List ρ) (messages other : Resolver),
    (t.fill rows messages).skeletons = (t.fill rows other).skeletons

/-- Whether the column is written in a way of its own. -/
def Column.isCustom (c : Column ρ) : Bool := (c.formatter.getD .plain).kind == "custom"

theorem Column.takesMessagesAsText_of_isCustom {c : Column ρ}
    (h : c.isCustom → c.TakesMessagesAsText) : c.TakesMessagesAsText := by
  by_cases hcustom : c.isCustom
  · exact h hcustom
  · have hkind : (c.formatter.getD .plain).kind ≠ "custom" := fun heq =>
      hcustom (beq_iff_eq.mpr heq)
    intro row settings messages other
    rw [render, render]
    split
    · exact Formatter.skeleton_apply_messages hkind row _ settings messages other
    · rfl

/-- No column of an attribute is written in a way of its own. -/
theorem AttributeStore.filter_isCustom_columns (store : AttributeStore) (domain : String) :
    (store.columns domain : List (Column ρ)).filter (·.isCustom) = [] := by
  have hkind (kind : AttributeKind) : (kind.formatter : Formatter ρ).kind ≠ "custom" := by
    cases kind <;> simp [AttributeKind.formatter, Formatter.kind]
  apply List.filter_eq_nil_iff.mpr
  intro c hc hcustom
  obtain ⟨d, -, rfl⟩ := List.mem_map.mp hc
  exact hkind d.kind (beq_iff_eq.mp hcustom)

/-! ## Tables -/

/-- Two resolvers fill cells of the same skeletons if they do so in each row and column. -/
theorem Table.skeletons_fill_eq_iff (t : Table ρ) (rows : List ρ) (messages other : Resolver) :
    (t.fill rows messages).skeletons = (t.fill rows other).skeletons ↔
      ∀ row ∈ rows, ∀ c ∈ t.visibleColumns,
        skeleton (c.render row ⟨t.settings, messages⟩) =
          skeleton (c.render row ⟨t.settings, other⟩) := by
  simp only [FilledTable.skeletons, fill, fillRow, List.map_map, List.map_inj_left,
    Function.comp_apply, cell]

/-- **Tables that take messages as text.** It is enough that columns do that are written in ways of
their own. -/
theorem TableDraft.Yields.takesMessagesAsText {draft : TableDraft ρ} {t : Table ρ}
    (h : draft.Yields t)
    (hcustom : ∀ c ∈ draft.columns.filter (·.isCustom), c.TakesMessagesAsText) :
    t.TakesMessagesAsText := by
  intro rows messages other
  rw [Table.skeletons_fill_eq_iff]
  intro row _ c hc
  obtain ⟨drafted, hdrafted, -, -, hrender⟩ := h.exists_of_mem_visibleColumns hc
  have htext : drafted.TakesMessagesAsText := Column.takesMessagesAsText_of_isCustom fun hflag =>
    hcustom drafted (List.mem_filter.mpr ⟨hdrafted, hflag⟩)
  rw [← hrender]
  exact htext row t.settings messages other

/-- Tables without columns that are written in ways of their own. -/
theorem TableDraft.Yields.takesMessagesAsText_of_nil {draft : TableDraft ρ} {t : Table ρ}
    (h : draft.Yields t) (hnone : draft.columns.filter (·.isCustom) = []) :
    t.TakesMessagesAsText :=
  h.takesMessagesAsText (hnone ▸ List.forall_mem_nil _)

/-! ## Portfolio entries and line items -/

namespace PortfolioEntryRow

/-- The column of statuses. -/
def statusColumn : Column PortfolioEntryRow :=
  (Column.ofField "portfolioEntryStatus" "portfolio_entry_status"
    "object.portfolio_entry.status.label").withFormatter (.custom renderStatus)

theorem filter_isCustom_columns : columns.filter (·.isCustom) = [statusColumn] := rfl

theorem takesMessagesAsText_statusColumn : statusColumn.TakesMessagesAsText :=
  fun _ _ _ _ => rfl

end PortfolioEntryRow

namespace LineItemRow

/-- The column of kinds of expenditures. -/
def expenditureColumn : Column LineItemRow :=
  (Column.ofField "isOpex" "is_opex"
    "object.purchase_order_line_item.expenditure_type.label").withFormatter
    (.custom renderExpenditure)

theorem filter_isCustom_columns : columns.filter (·.isCustom) = [expenditureColumn] := rfl

/-- The key of the message for the kind of the row's expenditure. -/
def expenditureKey (row : LineItemRow) : String :=
  if row.isOpex then "object.expenditure_type.opex.label"
  else "object.expenditure_type.capex.label"

/-- The message is the markup of the cell. -/
theorem render_expenditureColumn (row : LineItemRow) (ctx : Context) :
    expenditureColumn.render row ctx = ctx.messages.message row.expenditureKey [] := by
  have hvalue : expenditureColumn.extract row = .bool row.isOpex := rfl
  have hrender : expenditureColumn.render row ctx =
      renderExpenditure row (expenditureColumn.extract row) ctx := rfl
  rw [hrender, hvalue, renderExpenditure, expenditureKey]
  cases row.isOpex <;> rfl

theorem eq_expenditureColumn_of_name {c : Column LineItemRow} (hc : c ∈ columns)
    (hname : c.name = "isOpex") : c = expenditureColumn := by
  have hnodup : (columns.map (·.name)).Nodup := by decide
  have hmem : expenditureColumn ∈ columns :=
    (List.mem_filter.mp (filter_isCustom_columns ▸ List.mem_singleton_self _)).1
  exact List.inj_on_of_nodup_map hnodup hc hmem hname

/-- **Messages of line items.** The messages for the kinds of expenditures are all that the
skeletons of cells depend on, where these kinds are shown. -/
theorem skeletons_fill_eq_iff {t : Table LineItemRow} (h : draft.Yields t) (rows : List LineItemRow)
    (messages other : Resolver) :
    (t.fill rows messages).skeletons = (t.fill rows other).skeletons ↔
      ("isOpex" ∈ t.visibleColumns.map (·.name) → ∀ row ∈ rows,
        skeleton (messages.message row.expenditureKey []) =
          skeleton (other.message row.expenditureKey [])) := by
  rw [Table.skeletons_fill_eq_iff]
  constructor
  · intro hcells hshown row hrow
    obtain ⟨c, hc, hname⟩ := List.mem_map.mp hshown
    obtain ⟨drafted, hdrafted, hdraftedName, -, hrender⟩ := h.exists_of_mem_visibleColumns hc
    obtain rfl := eq_expenditureColumn_of_name hdrafted (hdraftedName.trans hname)
    have hcell := hcells row hrow c hc
    rwa [← hrender, render_expenditureColumn, render_expenditureColumn] at hcell
  · intro hmessages row hrow c hc
    obtain ⟨drafted, hdrafted, hname, -, hrender⟩ := h.exists_of_mem_visibleColumns hc
    rw [← hrender]
    by_cases hcustom : drafted.isCustom
    · -- the only column with a way of its own is that of kinds of expenditures
      have hmem : drafted ∈ columns.filter (·.isCustom) := List.mem_filter.mpr ⟨hdrafted, hcustom⟩
      rw [filter_isCustom_columns, List.mem_singleton] at hmem
      subst hmem
      have hshown : "isOpex" ∈ t.visibleColumns.map (·.name) := List.mem_map.mpr ⟨c, hc, hname.symm⟩
      rw [render_expenditureColumn, render_expenditureColumn]
      exact hmessages hshown row hrow
    · exact Column.takesMessagesAsText_of_isCustom (fun hflag => absurd hflag hcustom) row
        t.settings messages other

end LineItemRow

/-! ## The eight lists -/

/-- **Messages in lists.** Seven of the eight lists take messages as text, wherever links lead and
whatever attributes there are, however columns are hidden and settings changed. In the list of line
items two resolvers write cells of the same skeletons just where the kinds of expenditures are
hidden or their messages have the same skeletons. -/
theorem takesMessagesAsText_of_views (routes : Routes) (store : AttributeStore) :
    (∀ t, (ActorRow.draft routes store.columns).Yields t → t.TakesMessagesAsText) ∧
      (∀ t, (OrgUnitRow.draft routes store.columns).Yields t → t.TakesMessagesAsText) ∧
      (∀ t, (PortfolioRow.draft routes store.columns).Yields t → t.TakesMessagesAsText) ∧
      (∀ t, (PortfolioEntryRow.draft routes store.columns).Yields t → t.TakesMessagesAsText) ∧
      (∀ t, PortfolioTypeRow.draft.Yields t → t.TakesMessagesAsText) ∧
      (∀ t, (PurchaseOrderRow.draft routes).Yields t → t.TakesMessagesAsText) ∧
      (∀ t, (StakeholderRow.draft routes).Yields t → t.TakesMessagesAsText) ∧
      ∀ t, LineItemRow.draft.Yields t → ∀ rows messages other,
        (t.fill rows messages).skeletons = (t.fill rows other).skeletons ↔
          ("isOpex" ∈ t.visibleColumns.map (·.name) → ∀ row ∈ rows,
            skeleton (messages.message row.expenditureKey []) =
              skeleton (other.message row.expenditureKey [])) := by
  refine ⟨fun t ht => ?_, fun t ht => ?_, fun t ht => ?_, fun t ht => ?_, fun t ht => ?_,
    fun t ht => ?_, fun t ht => ?_, fun t ht => LineItemRow.skeletons_fill_eq_iff ht⟩
  · apply ht.takesMessagesAsText_of_nil
    rw [ActorRow.draft, List.filter_append, store.filter_isCustom_columns]
    rfl
  · apply ht.takesMessagesAsText_of_nil
    rw [OrgUnitRow.draft, List.filter_append, store.filter_isCustom_columns]
    rfl
  · apply ht.takesMessagesAsText_of_nil
    rw [PortfolioRow.draft, List.filter_append, store.filter_isCustom_columns]
    rfl
  · apply ht.takesMessagesAsText
    rw [PortfolioEntryRow.draft, List.filter_append, store.filter_isCustom_columns,
      PortfolioEntryRow.filter_isCustom_columns, List.append_nil]
    exact List.forall_mem_singleton.mpr PortfolioEntryRow.takesMessagesAsText_statusColumn
  · exact ht.takesMessagesAsText_of_nil rfl
  · exact ht.takesMessagesAsText_of_nil rfl
  · exact ht.takesMessagesAsText_of_nil rfl

/-- A catalog with markup in the prompt of delete icons and in the name of a kind of
expenditures. -/
def markupCatalog : Catalog where
  locale := "en"
  templates := [(deletePromptKey, "<b>'\"</b>"),
    ("object.expenditure_type.capex.label", "<b>Capex</b>")]

/-- A catalog without messages. -/
def emptyCatalog : Catalog where
  locale := "en"

/-- A person with a role in a portfolio. -/
def StakeholderRow.sponsor : StakeholderRow :=
  ⟨3, some 4, ⟨7, "Ada", none⟩, ⟨1, "Sponsor", none⟩, none⟩

/-- A line item that is no operating expenditure. -/
def LineItemRow.capital : LineItemRow :=
  ⟨2, none, none, false, false, "L-2", "PO-1", none, none, none, none, none, false, false, none⟩

/-- Markup in the prompt changes no skeleton in the list of stakeholders, and in that of line items
the catalogs write one skeleton as soon as kinds of expenditures are hidden. -/
theorem skeletons_fill_markupCatalog :
    (StakeholderRow.draft .standard).Yields (StakeholderRow.draft .standard).toTable ∧
      LineItemRow.draft.Yields (LineItemRow.table.hide ["isOpex"]) ∧
      ((StakeholderRow.draft .standard).toTable.fill [.sponsor] markupCatalog.resolver).skeletons =
        ((StakeholderRow.draft .standard).toTable.fill [.sponsor]
          emptyCatalog.resolver).skeletons ∧
      ((LineItemRow.table.hide ["isOpex"]).fill [.capital] markupCatalog.resolver).skeletons =
        ((LineItemRow.table.hide ["isOpex"]).fill [.capital] emptyCatalog.resolver).skeletons := by
  have hstakeholders : (StakeholderRow.draft .standard).Yields
      (StakeholderRow.draft .standard).toTable :=
    .build (TableDraft.build_eq_ok_iff.mpr ⟨by decide, rfl⟩)
  have hlines : LineItemRow.draft.Yields (LineItemRow.table.hide ["isOpex"]) :=
    .withHidden (.build LineItemRow.build_draft)
      (Table.withHidden_eq_ok_iff.mpr ⟨by decide, rfl⟩)
  obtain ⟨-, -, -, -, -, -, hstakeholder, hline⟩ :=
    takesMessagesAsText_of_views .standard ⟨fun _ => [], fun _ _ _ => .null⟩
  refine ⟨hstakeholders, hlines, hstakeholder _ hstakeholders _ _ _, ?_⟩
  exact (hline _ hlines _ _ _).mpr fun hshown => absurd hshown (by decide)

/-- Where kinds of expenditures are shown, the markup of a message is that of the cell. -/
theorem LineItemRow.skeletons_fill_capital_ne :
    (table.fill [capital] markupCatalog.resolver).skeletons ≠
      (table.fill [capital] emptyCatalog.resolver).skeletons := by
  decide +kernel

end DataGrid
