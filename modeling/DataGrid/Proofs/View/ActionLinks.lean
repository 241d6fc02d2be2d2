import DataGrid.Proofs.Formatter.Confirmation
import DataGrid.Proofs.Markup.LinkTarget
import DataGrid.Proofs.Table.Grid
import DataGrid.View.LineItem
import DataGrid.View.Stakeholder

/-!
# Links of actions

A column of an action has two functions that must agree: one says in which rows the action is there,
and one makes its address. The second answers something for every row, also where the action is not
there. Such an address is not rendered: the cells link to the address of the action where it has
one, and show the placeholder elsewhere.

## Main definitions

* `Formatter.IsLinkTo`: formatters whose markup is a link to an address
* `Column.IsAction`: columns that are shown in the rows that have an address
* `FilledCell.ShowsAddress`, `Table.HasAction`: what the cells of an action show

## Main results

* `Column.IsAction.hasAction`: columns of actions in tables
* `hasAction_of_views`: the actions on stakeholders and line items
-/

namespace DataGrid

open Markup Text

variable {ρ : Type}

/-! ## Formatters -/

namespace Formatter

/-- **Links to an address.** The markup is a link to the address of the row, and it does not depend
on the addresses of other rows. -/
structure IsLinkTo (make : (ρ → String) → Formatter ρ) : Prop where
  target : ∀ url row v ctx, linkTarget? ((make url).apply row v ctx) = some (url row)
  congr : ∀ url url' row v ctx, url row = url' row →
    (make url).apply row v ctx = (make url').apply row v ctx

/-- A template that starts with a link to its place. -/
theorem isLinkTo_stringFormat {template : String} (rest : List Char)
    (h : template.toList =
      ('<' :: 'a' :: targetName ++ ['"']) ++ '\x7b' :: (addressTail ++ '"' :: rest))
    (hrest : '\x7b' ∉ rest) : IsLinkTo (stringFormat template : (ρ → String) → Formatter ρ) where
  target url row v ctx := linkTarget?_fillUrl h hrest (url row)
  congr url url' row v ctx heq := by rw [apply, apply, heq]

theorem isLinkTo_editLink : IsLinkTo (editLink : (ρ → String) → Formatter ρ) :=
  isLinkTo_stringFormat "><span class=\"fa fa-pencil-square-o\"></span></a>".toList
    (by decide +kernel) (by decide +kernel)

/-- A delete icon links to its address behind its click handler. -/
theorem isLinkTo_deleteLink : IsLinkTo (deleteLink : (ρ → String) → Formatter ρ) where
  target url row v ctx := by
    set body := replaceAll '\x7b' addressTail (url row).toList
      (quoteChars (ctx.messages.message deletePromptKey []).toList) with hbody
    have hstart : clickStart = '<' :: 'a' :: (" onclick=".toList ++ ['"']) := by decide +kernel
    have haddress : addressStart = '"' :: (targetName ++ ['"']) := by decide +kernel
    have hicon : iconEnd = '"' :: iconEnd.tail := by decide +kernel
    have htag : ((deleteLink url).apply row v ctx).toList = '<' :: 'a' :: (" onclick=".toList ++
        '"' :: (callStart ++ (escapeChars body ++ callEnd) ++ '"' :: (targetName ++
          '"' :: ((escape (url row)).toList ++ '"' :: iconEnd.tail)))) := by
      rw [toList_apply_deleteLink, ← hbody, hstart, haddress, ← hicon]
      simp only [List.append_assoc, List.cons_append, List.nil_append]
    refine linkTarget?_of_lookup htag ?_
    have hname : (targetName == " onclick=".toList) = false := by decide +kernel
    rw [attributes_splitOn (by decide +kernel) (by decide +kernel) (quote_notMem_call body),
      List.lookup_cons, hname]
    exact lookup_targetName (url row) iconEnd.tail
  congr url url' row v ctx heq := by rw [deleteLink, deleteLink, apply, apply, heq]

end Formatter

/-! ## Columns -/

/-- **Column of an action.** It is shown in the rows that have an address, and its formatter is made
from a function that has these addresses. -/
structure Column.IsAction (c : Column ρ) (make : (ρ → String) → Formatter ρ)
    (address? : ρ → Option String) : Prop where
  visible : ∀ row, c.isVisibleFor row = (address? row).isSome
  formatter : ∃ url, c.formatter = some (make url) ∧ ∀ row, ∀ address ∈ address? row,
    url row = address

/-- **Address in a cell.** The cell is a link to the address, or shows the placeholder if there is
none. -/
def FilledCell.ShowsAddress (cell : FilledCell) (settings : FormatSettings) : Option String → Prop
  | some address => linkTarget? cell.html = some address
  | none => cell.html = settings.emptyPlaceholder

namespace Column.IsAction

variable [RowView ρ] {c : Column ρ} {make : (ρ → String) → Formatter ρ} {address? : ρ → Option String}

theorem render_of_none (h : c.IsAction make address?) {row : ρ} (hnone : address? row = none)
    (ctx : Context) : c.render row ctx = ctx.settings.emptyPlaceholder := by
  have hhidden : ¬ c.isVisibleFor row := by simp [h.visible, hnone]
  rw [Column.render, if_neg hhidden, Context.empty]

theorem render_of_some (h : c.IsAction make address?) (hmake : Formatter.IsLinkTo make) {row : ρ}
    {address : String} (hsome : address? row = some address) (ctx : Context) :
    linkTarget? (c.render row ctx) = some address := by
  have hvisible : c.isVisibleFor row := by rw [h.visible, hsome]; rfl
  obtain ⟨url, hformatter, hurl⟩ := h.formatter
  rw [Column.render, if_pos hvisible, hformatter, Option.getD_some, hmake.target,
    hurl row address hsome]

/-- What the function answers for other rows is not rendered. -/
theorem render_withFormatter (h : c.IsAction make address?) (hmake : Formatter.IsLinkTo make)
    {url : ρ → String} (hurl : ∀ row, ∀ address ∈ address? row, url row = address) (row : ρ)
    (ctx : Context) : (c.withFormatter (make url)).render row ctx = c.render row ctx := by
  obtain ⟨own, hformatter, hown⟩ := h.formatter
  have hsame : (c.withFormatter (make url)).isVisibleFor row = c.isVisibleFor row := rfl
  rw [Column.render, Column.render, hsame, h.visible, hformatter]
  cases hrow : address? row with
  | none => rfl
  | some address =>
    have heq : url row = own row := by rw [hurl row address hrow, hown row address hrow]
    exact hmake.congr url own row (c.extract row) ctx heq

end Column.IsAction

/-! ## Tables -/

/-- **Action of a table.** Every row has a cell of that name, which shows the row's address. Another
function that makes the same addresses makes the same cells, whatever it answers for rows that have
none. -/
structure Table.HasAction [RowView ρ] (t : Table ρ) (name : String)
    (make : (ρ → String) → Formatter ρ) (address? : ρ → Option String) : Prop where
  shown : ∀ messages row, ∃ cell, (t.fillRow messages row).cell? name = some cell ∧
    cell.ShowsAddress t.settings (address? row)
  noOther : ∀ url : ρ → String, (∀ row, ∀ address ∈ address? row, url row = address) →
    ∀ c ∈ t.columns, c.name = name → (c.withFormatter (make url)).render = c.render

theorem Column.IsAction.hasAction [RowView ρ] {t : Table ρ} {c : Column ρ}
    {make : (ρ → String) → Formatter ρ} {address? : ρ → Option String}
    (h : c.IsAction make address?) (hmake : Formatter.IsLinkTo make)
    (hnodup : (t.columns.map (·.name)).Nodup) (hc : c ∈ t.visibleColumns) :
    t.HasAction c.name make address? where
  shown messages row := by
    refine ⟨_, Table.cell?_fillRow hnodup messages row hc, ?_⟩
    cases hrow : address? row with
    | none => exact h.render_of_none hrow _
    | some address => exact h.render_of_some hmake hrow _
  noOther url hurl other hother hname := by
    -- no other column has the name
    obtain rfl := List.inj_on_of_nodup_map hnodup hother (List.mem_filter.mp hc).1 hname
    funext row ctx
    exact h.render_withFormatter hmake hurl row ctx

/-! ## Stakeholders and line items -/

/-- An action on a stakeholder has an address in the rows of portfolio stakeholders. -/
theorem StakeholderRow.isAction_actionColumn (name : String)
    (make : (StakeholderRow → String) → Formatter StakeholderRow)
    (action : Int64 → Int64 → String) :
    (actionColumn name (make (actionUrl action))).IsAction make
      fun row => row.portfolioId.map (action · row.id) where
  visible row := by
    rw [Option.isSome_map]
    rfl
  formatter := by
    refine ⟨actionUrl action, rfl, fun row address haddress => ?_⟩
    obtain ⟨portfolio, hportfolio, rfl⟩ := Option.map_eq_some_iff.mp haddress
    rw [actionUrl, hportfolio]

namespace LineItemRow

theorem selectUrl?_eq (row : LineItemRow) :
    row.selectUrl? = row.portfolioEntryId.bind fun entry => row.workOrderId.map fun order =>
      Routes.standard.selectLineItem entry order row.id := by
  rw [selectUrl?]
  cases row.portfolioEntryId with
  | none => rfl
  | some entry => cases row.workOrderId <;> rfl

/-- The column that selects a line item is shown where the line item has the address for it. -/
theorem exists_isAction : ∃ c ∈ columns, c.name = "selectActionLink" ∧ c.hidden = false ∧
    c.IsAction (.stringFormat selectTemplate) selectUrl? := by
  refine ⟨_, List.mem_of_getLast? rfl, rfl, rfl, fun row => rfl, _, rfl, ?_⟩
  intro row address haddress
  exact congrArg (Option.getD · "") haddress

theorem isLinkTo_selectTemplate :
    Formatter.IsLinkTo (.stringFormat selectTemplate : (LineItemRow → String) → Formatter _) :=
  Formatter.isLinkTo_stringFormat "><span class=\"fa fa-lock\"></span></a>".toList
    (by decide +kernel) (by decide +kernel)

end LineItemRow

/-- **Actions of lists.** The cells of an action show the placeholder where an id is missing, and
link to the address that is made from the ids otherwise. No address that is made without them is
rendered. -/
theorem hasAction_of_views :
    (∀ routes, ∃ t, StakeholderRow.table routes = .ok t ∧ ∀ settings,
      (t.withSettings settings).HasAction "editActionLink" .editLink
          (fun row => row.portfolioId.map (routes.manageStakeholder · row.id)) ∧
        (t.withSettings settings).HasAction "removeActionLink" .deleteLink
          (fun row => row.portfolioId.map (routes.deleteStakeholder · row.id))) ∧
      ∀ settings, (LineItemRow.table.withSettings settings).HasAction "selectActionLink"
        (.stringFormat LineItemRow.selectTemplate)
        (fun row => row.portfolioEntryId.bind fun entry => row.workOrderId.map fun order =>
          Routes.standard.selectLineItem entry order row.id) := by
  refine ⟨fun routes => ?_, fun settings => ?_⟩
  · have hbuilt : StakeholderRow.table routes = .ok (StakeholderRow.draft routes).toTable := rfl
    obtain ⟨⟨-, hnodup, -⟩, -⟩ := TableDraft.build_eq_ok_iff.mp hbuilt
    refine ⟨_, hbuilt, fun settings => ⟨?_, ?_⟩⟩
    · exact (StakeholderRow.isAction_actionColumn _ _ _).hasAction Formatter.isLinkTo_editLink
        hnodup (List.mem_filter.mpr ⟨List.mem_of_getElem? (i := 3) rfl, rfl⟩)
    · exact (StakeholderRow.isAction_actionColumn _ _ _).hasAction Formatter.isLinkTo_deleteLink
        hnodup (List.mem_filter.mpr ⟨List.mem_of_getLast? rfl, rfl⟩)
  · obtain ⟨⟨-, hnodup, -⟩, -⟩ := TableDraft.build_eq_ok_iff.mp LineItemRow.build_draft
    obtain ⟨c, hc, hname, hhidden, haction⟩ := LineItemRow.exists_isAction
    have hvisible : c ∈ (LineItemRow.table.withSettings settings).visibleColumns :=
      List.mem_filter.mpr ⟨hc, by rw [hhidden]; rfl⟩
    rw [← funext LineItemRow.selectUrl?_eq, ← hname]
    exact haction.hasAction LineItemRow.isLinkTo_selectTemplate hnodup hvisible

end DataGrid
