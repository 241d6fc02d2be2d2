import DataGrid.Proofs.Formatter.Anchor
import DataGrid.Proofs.View.AttributeCells
import DataGrid.Proofs.View.MessageText

/-!
# Cells with links of their own

A cell that has a link of its own should leave the row's link alone. Columns of the lists are made
so: they are flagged, or what they write opens no link. The column of an attribute for references is
not flagged, and its cells open a link wherever the value has an address.

## Main definitions

* `FilledCell.LinksTwice`: cells that open a link and follow the row's address
* `AttributeStore.ShowsLink`: cells of attributes for references with an address
* `LinksTwiceJust`: the places where a list links twice

## Main results

* `FixedColumns.linksTwiceJust`: lists with attributes link twice just in cells of attributes
* `linksTwiceJust_of_views`: where the eight lists link twice
-/

namespace DataGrid

open Markup

/-- **Two links.** A link is opened in the cell, and the cell follows the row's address. -/
def FilledCell.LinksTwice (cell : FilledCell) : Prop :=
  HasAnchor cell.html ∧ cell.rowAction.isSome

instance (cell : FilledCell) : Decidable cell.LinksTwice :=
  inferInstanceAs (Decidable (_ ∧ _))

/-- **Links of attributes.** The column is that of an attribute for references, and the object has a
reference with an address there. -/
def AttributeStore.ShowsLink (store : AttributeStore) (domain : String) (id : Int64)
    (column : String) : Prop :=
  ∃ d ∈ store.definitions domain, attributeColumnName d.key = column ∧ d.kind = .reference ∧
    (store.value domain id d.key).isLink

variable {ρ : Type} [RowView ρ]

/-- **Where a list links twice.** With the usual settings, the cells of the list that open a link and
follow the row's address are those at the places, whatever columns are hidden. -/
def LinksTwiceJust (draft : TableDraft ρ) (messages : Resolver) (rows : List ρ)
    (places : ρ → String → Prop) : Prop :=
  ∀ t, draft.Yields t → t.settings = {} →
    List.Forall₂ (fun row filled => ∀ cell ∈ filled.cells, cell.LinksTwice ↔ places row cell.column)
      rows (t.fill rows messages).rows

/-! ## Columns -/

/-- **Links kept apart.** The cell leaves the row's link alone, or opens no link. -/
def Column.KeepsLinksApart (c : Column ρ) (messages : Resolver) (row : ρ) : Prop :=
  c.skipsRowAction ∨ ¬ HasAnchor (c.render row ⟨{}, messages⟩)

/-- Whether the column is flagged or its formatter opens no link. -/
def Column.isApart (c : Column ρ) : Bool :=
  c.skipsRowAction ||
    ["plain", "boolean", "number", "date"].contains (c.formatter.getD .plain).kind

variable {messages : Resolver} {row : ρ}

/-- Cells that are not shown open no link. -/
theorem Column.not_hasAnchor_render {c : Column ρ}
    (h : ¬ HasAnchor ((c.formatter.getD .plain).apply row (c.extract row) ⟨{}, messages⟩)) :
    ¬ HasAnchor (c.render row ⟨{}, messages⟩) := by
  rw [render]
  split
  · exact h
  · exact not_hasAnchor_of_opensNoLink (opensNoLink_empty messages)

theorem Column.keepsLinksApart_of_isApart {c : Column ρ} (h : c.isApart) (messages : Resolver)
    (row : ρ) : c.KeepsLinksApart messages row := by
  rcases Bool.or_eq_true_iff.mp h with hskips | hkind
  · exact .inl hskips
  · right
    apply not_hasAnchor_render
    exact Formatter.not_hasAnchor_of_kind messages (List.contains_iff_mem.mp hkind) row _

/-- Columns keep links apart if those do that could do otherwise. -/
theorem Column.forall_keepsLinksApart {columns : List (Column ρ)}
    (h : ∀ c ∈ columns.filter (!·.isApart), c.KeepsLinksApart messages row) :
    ∀ c ∈ columns, c.KeepsLinksApart messages row := by
  intro c hc
  cases hapart : c.isApart with
  | true => exact keepsLinksApart_of_isApart hapart messages row
  | false => exact h c (List.mem_filter.mpr ⟨hc, by rw [hapart, Bool.not_false]⟩)

/-! ## Lists -/

namespace Table

variable {t : Table ρ}

theorem linksTwice_cell_iff (ctx : Context) (c : Column ρ) :
    (t.cell ctx row c).LinksTwice ↔
      HasAnchor (c.render row ctx) ∧ ¬ c.skipsRowAction ∧ t.rowAction.isSome := by
  rw [FilledCell.LinksTwice, cell]
  apply and_congr_right'
  cases c.skipsRowAction with
  | true => simp
  | false => simp [rowUrl?]

theorem not_linksTwice_cell {c : Column ρ} (hsettings : t.settings = {})
    (h : c.KeepsLinksApart messages row) :
    ¬ (t.cell ⟨t.settings, messages⟩ row c).LinksTwice := by
  rw [linksTwice_cell_iff, hsettings]
  rintro ⟨hanchor, hskips, -⟩
  rcases h with hflag | hnone
  · exact hskips hflag
  · exact hnone hanchor

end Table

/-- Where a list links twice is a matter of its rows, one by one. -/
theorem linksTwiceJust_of_cells {draft : TableDraft ρ} {rows : List ρ} {places : ρ → String → Prop}
    (h : ∀ t, draft.Yields t → t.settings = {} → ∀ row ∈ rows, ∀ c ∈ t.visibleColumns,
      (t.cell ⟨t.settings, messages⟩ row c).LinksTwice ↔ places row c.name) :
    LinksTwiceJust draft messages rows places := by
  intro t hyields hsettings
  apply List.forall₂_map_right_iff.mpr
  apply List.forall₂_same.mpr
  intro row hrow cell hcell
  obtain ⟨c, hc, rfl⟩ := List.mem_map.mp hcell
  exact h t hyields hsettings row hrow c hc

/-- Lists whose columns keep links apart do not link twice. -/
theorem linksTwiceJust_false {draft : TableDraft ρ} {rows : List ρ}
    (h : ∀ row ∈ rows, ∀ c ∈ draft.columns, c.KeepsLinksApart messages row) :
    LinksTwiceJust draft messages rows fun _ _ => False := by
  apply linksTwiceJust_of_cells
  intro t hyields hsettings row hrow c hc
  obtain ⟨drafted, hdrafted, -, hskips, hrender⟩ := hyields.exists_of_mem_visibleColumns hc
  have hapart := h row hrow drafted hdrafted
  rw [Column.KeepsLinksApart, hskips, hrender] at hapart
  exact iff_false_intro (Table.not_linksTwice_cell hsettings hapart)

/-- Lists whose rows have no address do not link twice. -/
theorem linksTwiceJust_false_of_rowAction {draft : TableDraft ρ} (rows : List ρ)
    (h : draft.rowAction = none) : LinksTwiceJust draft messages rows fun _ _ => False := by
  apply linksTwiceJust_of_cells
  intro t hyields _ row _ c _
  rw [Table.linksTwice_cell_iff, hyields.rowAction_eq, h]
  simp

/-- The cell of an attribute opens a link just where it shows a reference with an address. -/
theorem AttributeStore.hasAnchor_render_column (store : AttributeStore) (domain : String)
    (d : AttributeDefinition) {id : Int64} (hid : (RowView.value row "id").id? = some id)
    (messages : Resolver) :
    HasAnchor ((store.column domain d).render row ⟨{}, messages⟩) ↔
      d.kind = .reference ∧ (store.value domain id d.key).isLink := by
  rw [store.render_column domain d hid, AttributeKind.hasAnchor_apply_iff]

/-- An attribute's column shows a link just where this attribute does, as no other one has its
name. -/
theorem AttributeStore.showsLink_iff {store : AttributeStore} {domain : String}
    (hnames : ((store.definitions domain).map fun d => attributeColumnName d.key).Nodup)
    {d : AttributeDefinition} (hd : d ∈ store.definitions domain) (id : Int64) :
    store.ShowsLink domain id (attributeColumnName d.key) ↔
      d.kind = .reference ∧ (store.value domain id d.key).isLink := by
  constructor
  · rintro ⟨other, hother, hname, hkind, hlink⟩
    obtain rfl := List.inj_on_of_nodup_map hnames hother hd hname
    exact ⟨hkind, hlink⟩
  · rintro ⟨hkind, hlink⟩
    exact ⟨d, hd, rfl, hkind, hlink⟩

namespace FixedColumns

variable {fixed : List (Column ρ)} (base : TableDraft ρ) {domain : String}
  {store : AttributeStore}

/-- **Lists with attributes.** If the fixed columns keep links apart, the list links twice just in
cells of attributes that show a reference with an address. -/
theorem linksTwiceJust (hfixed : FixedColumns fixed) (haction : base.rowAction.isSome)
    {rowId : ρ → Int64} (hid : ∀ row, (RowView.value row "id").id? = some (rowId row))
    {rows : List ρ} (hapart : ∀ row ∈ rows, ∀ c ∈ fixed, c.KeepsLinksApart messages row) :
    LinksTwiceJust (listDraft fixed base domain store.columns) messages rows
      fun row column => store.ShowsLink domain (rowId row) column := by
  apply linksTwiceJust_of_cells
  intro t hyields hsettings row hrow c hc
  obtain ⟨drafted, hdrafted, hname, hskips, hrender⟩ := hyields.exists_of_mem_visibleColumns hc
  rw [← hname]
  rcases List.mem_append.mp hdrafted with hmem | hmem
  · -- no attribute has the name of a fixed column
    have hcolumn := hapart row hrow drafted hmem
    rw [Column.KeepsLinksApart, hskips, hrender] at hcolumn
    refine iff_of_false (Table.not_linksTwice_cell hsettings hcolumn) ?_
    rintro ⟨d, -, hattribute, -, -⟩
    have hfixedName : drafted.name ∈ fixed.map (·.name) := List.mem_map_of_mem hmem
    exact attributeColumnName_notMem d.key hfixed.notAttributes (hattribute ▸ hfixedName)
  · rw [AttributeStore.columns_eq_map] at hmem
    obtain ⟨d, hd, rfl⟩ := List.mem_map.mp hmem
    have hnames : ((store.definitions domain).map fun d => attributeColumnName d.key).Nodup := by
      have hnodup := hyields.map_name_columns ▸ hyields.nodup_map_name
      rw [listDraft, List.map_append, store.map_name_columns] at hnodup
      exact hnodup.of_append_right
    have hrowAction : t.rowAction.isSome := by
      rw [hyields.rowAction_eq]
      exact haction
    -- columns of attributes are not flagged
    have hflag : ¬ (store.column domain d : Column ρ).skipsRowAction := Bool.false_ne_true
    rw [Table.linksTwice_cell_iff, ← hskips, ← hrender, hsettings, and_iff_left ⟨hflag, hrowAction⟩,
      store.hasAnchor_render_column domain d (hid row)]
    exact (AttributeStore.showsLink_iff hnames hd (rowId row)).symm

end FixedColumns

/-! ## The eight lists -/

/-- A column of kinds, which have no page. -/
theorem keepsLinksApart_kind {κ : Type} {c : Column ρ} (kind : Option κ) {reference : κ → Reference}
    (hurl : ∀ k, (reference k).url = none) (hformatter : c.formatter = some .reference)
    (hvalue : c.extract row = toValue (kind.map reference)) : c.KeepsLinksApart messages row := by
  right
  apply Column.not_hasAnchor_render
  rw [hformatter, Option.getD_some, Formatter.hasAnchor_reference_iff, hvalue]
  cases kind with
  | none => exact Bool.false_ne_true
  | some k =>
    have hlink : (toValue ((some k).map reference) : Value).isLink = (reference k).url.isSome := rfl
    rw [hlink, hurl k]
    exact Bool.false_ne_true

/-- A column of roles, which are texts. -/
theorem keepsLinksApart_roles {c : Column ρ} (roles : List String)
    (hformatter : c.formatter = some .list) (hvalue : c.extract row = toValue roles) :
    c.KeepsLinksApart messages row := by
  right
  apply Column.not_hasAnchor_render
  rw [hformatter, Option.getD_some, hvalue]
  exact Formatter.not_hasAnchor_list_texts messages row roles

theorem ActorRow.keepsLinksApart (row : ActorRow) :
    ∀ c ∈ columns, c.KeepsLinksApart messages row := by
  apply Column.forall_keepsLinksApart
  have hrest : columns.filter (!·.isApart) = [] := rfl
  rw [hrest]
  exact List.forall_mem_nil _

theorem OrgUnitRow.keepsLinksApart (routes : Routes) (o : OrgUnit) :
    ∀ c ∈ columns, c.KeepsLinksApart messages (new routes o) := by
  apply Column.forall_keepsLinksApart
  have hrest : columns.filter (!·.isApart) =
    [(Column.ofField "type" "org_unit_type" "object.org_unit.type.label").withFormatter
      .reference] := rfl
  rw [hrest, List.forall_mem_singleton]
  exact keepsLinksApart_kind o.type (fun _ => rfl) rfl rfl

theorem PortfolioRow.keepsLinksApart (routes : Routes) (p : Portfolio)
    (stakeholders : List Stakeholder) :
    ∀ c ∈ columns, c.KeepsLinksApart messages (withStakeholders routes p stakeholders) := by
  apply Column.forall_keepsLinksApart
  have hrest : columns.filter (!·.isApart) =
    [(Column.ofField "type" "portfolio_type" "object.portfolio.type.label").withFormatter
        .reference,
      (Column.ofField "stakeholderTypes" "stakeholder_types"
        "object.portfolio.stakeholder_types.label").withFormatter .list] := rfl
  rw [hrest, List.forall_mem_cons, List.forall_mem_singleton]
  constructor
  · exact keepsLinksApart_kind p.type (fun _ => rfl) rfl rfl
  · exact keepsLinksApart_roles (stakeholders.map (·.type.name)) rfl rfl

theorem PortfolioEntryRow.keepsLinksApart (routes : Routes) (e : PortfolioEntry)
    (stakeholders : List Stakeholder) :
    ∀ c ∈ columns, c.KeepsLinksApart messages (withStakeholders routes e stakeholders) := by
  apply Column.forall_keepsLinksApart
  have hrest : columns.filter (!·.isApart) =
    [(Column.ofField "portfolioEntryType" "portfolio_entry_type"
        "object.portfolio_entry.type.label").withFormatter .reference, statusColumn,
      (Column.ofField "stakeholderTypes" "stakeholder_types"
        "object.portfolio_entry.stakeholder_types.label").withFormatter .list] := rfl
  rw [hrest, List.forall_mem_cons, List.forall_mem_cons, List.forall_mem_singleton]
  refine ⟨?_, ?_, ?_⟩
  · exact keepsLinksApart_kind e.type (fun _ => rfl) rfl rfl
  · right
    apply Column.not_hasAnchor_render
    exact not_hasAnchor_renderStatus messages (withStakeholders routes e stakeholders)
      (statusColumn.extract (withStakeholders routes e stakeholders))
  · exact keepsLinksApart_roles (stakeholders.map (·.type.name)) rfl rfl

theorem PurchaseOrderRow.keepsLinksApart (row : PurchaseOrderRow) :
    ∀ c ∈ columns, c.KeepsLinksApart messages row := by
  apply Column.forall_keepsLinksApart
  have hrest : columns.filter (!·.isApart) = [] := rfl
  rw [hrest]
  exact List.forall_mem_nil _

/-- The keys of messages open no link. -/
theorem LineItemRow.keepsLinksApart_echo (row : LineItemRow) :
    ∀ c ∈ columns, c.KeepsLinksApart .echo row := by
  apply Column.forall_keepsLinksApart
  have hrest : columns.filter (!·.isApart) = [expenditureColumn] := rfl
  rw [hrest, List.forall_mem_singleton]
  right
  rw [render_expenditureColumn, expenditureKey]
  cases row.isOpex <;> decide +kernel

/-- **Links twice.** With the usual settings, the lists of people, units, portfolios and entries
link twice just in cells of attributes for references, where the value has an address. The other
lists do not link twice. -/
theorem linksTwiceJust_of_views (routes : Routes) (store : AttributeStore) (messages : Resolver) :
    (∀ actors : List Actor,
        LinksTwiceJust (ActorRow.draft routes store.columns) messages
          (actors.map (ActorRow.new routes))
          fun row column => store.ShowsLink ActorRow.domain row.id column) ∧
      (∀ units : List OrgUnit,
        LinksTwiceJust (OrgUnitRow.draft routes store.columns) messages
          (units.map (OrgUnitRow.new routes))
          fun row column => store.ShowsLink OrgUnitRow.domain row.id column) ∧
      (∀ portfolios : List (Portfolio × List Stakeholder),
        LinksTwiceJust (PortfolioRow.draft routes store.columns) messages
          (portfolios.map fun p => PortfolioRow.withStakeholders routes p.1 p.2)
          fun row column => store.ShowsLink PortfolioRow.domain row.id column) ∧
      (∀ entries : List (PortfolioEntry × List Stakeholder),
        LinksTwiceJust (PortfolioEntryRow.draft routes store.columns) messages
          (entries.map fun e => PortfolioEntryRow.withStakeholders routes e.1 e.2)
          fun row column => store.ShowsLink PortfolioEntryRow.domain row.id column) ∧
      (∀ rows, LinksTwiceJust PortfolioTypeRow.draft messages rows fun _ _ => False) ∧
      (∀ rows, LinksTwiceJust (PurchaseOrderRow.draft routes) messages rows fun _ _ => False) ∧
      (∀ rows, LinksTwiceJust LineItemRow.draft .echo rows fun _ _ => False) ∧
      ∀ rows, LinksTwiceJust (StakeholderRow.draft routes) messages rows fun _ _ => False := by
  refine ⟨fun actors => ?_, fun units => ?_, fun portfolios => ?_, fun entries => ?_,
    fun rows => ?_, fun rows => ?_, fun rows => ?_, fun rows => ?_⟩
  · apply ActorRow.fixedColumns.linksTwiceJust (ActorRow.draft routes fun _ => []) rfl fun _ => rfl
    exact fun row _ => row.keepsLinksApart
  · apply OrgUnitRow.fixedColumns.linksTwiceJust (OrgUnitRow.draft routes fun _ => []) rfl
      fun _ => rfl
    exact List.forall_mem_map.mpr fun o _ => OrgUnitRow.keepsLinksApart routes o
  · apply PortfolioRow.fixedColumns.linksTwiceJust (PortfolioRow.draft routes fun _ => []) rfl
      fun _ => rfl
    exact List.forall_mem_map.mpr fun p _ => PortfolioRow.keepsLinksApart routes p.1 p.2
  · apply PortfolioEntryRow.fixedColumns.linksTwiceJust
      (PortfolioEntryRow.draft routes fun _ => []) rfl fun _ => rfl
    exact List.forall_mem_map.mpr fun e _ => PortfolioEntryRow.keepsLinksApart routes e.1 e.2
  · exact linksTwiceJust_false_of_rowAction rows rfl
  · exact linksTwiceJust_false fun row _ => row.keepsLinksApart
  · exact linksTwiceJust_false fun row _ => row.keepsLinksApart_echo
  · exact linksTwiceJust_false_of_rowAction rows rfl

namespace ActorRow

/-- People have a mentor. -/
def mentors : AttributeEntries where
  definitions := [("Actor", ⟨"mentor", "custom.mentor.label", .reference, true⟩)]
  values := [(("Actor", 7, "mentor"), .ref ⟨8, "Bea", some "/actor/8"⟩)]

/-- A person with a mentor. -/
def mentee : Actor where
  id := 7
  uid := "ada"
  employeeId := none
  firstName := "Ada"
  lastName := "L"
  title := none
  isActive := true
  deleted := false
  orgUnit := none
  manager := none

/-- The list of people with their mentors. -/
def mentorTable : Table ActorRow := (draft .standard mentors.store.columns).toTable

/-- The cells of the list that link twice are those of mentors with a page. -/
theorem linksTwice_mentors :
    (draft .standard mentors.store.columns).Yields mentorTable ∧ mentorTable.settings = {} ∧
      List.Forall₂ (fun row filled => ∀ cell ∈ filled.cells,
          cell.LinksTwice ↔ mentors.store.ShowsLink domain row.id cell.column)
        [new .standard mentee] (mentorTable.fill [new .standard mentee] .echo).rows := by
  have hyields : (draft .standard mentors.store.columns).Yields mentorTable :=
    .build (TableDraft.build_eq_ok_iff.mpr ⟨by decide +kernel, rfl⟩)
  exact ⟨hyields, rfl,
    (linksTwiceJust_of_views .standard mentors.store .echo).1 [mentee] _ hyields rfl⟩

/-- The cell that shows the mentor. -/
def mentorCell : FilledCell where
  column := "custom_attribute_mentor"
  html := "<a href=\"/actor/8\">Bea</a>"
  css := ""
  rowAction := some "/actor/7/view"

/-- A mentor's link stands in a cell that follows the link of the row. -/
theorem linksTwice_mentorCell :
    table .standard mentors.store.columns = .ok mentorTable ∧
      (∃ filled, (mentorTable.fill [new .standard mentee] .echo).rows = [filled] ∧
        mentorCell ∈ filled.cells) ∧ mentorCell.LinksTwice := by
  refine ⟨?_, ⟨_, rfl, ?_⟩, ?_⟩
  · exact TableDraft.build_eq_ok_iff.mpr ⟨by decide +kernel, rfl⟩
  · decide +kernel
  · decide +kernel

end ActorRow

end DataGrid
