import DataGrid.Proofs.StableSort
import DataGrid.View.PortfolioEntry
import Mathlib.Data.List.Forall2

/-!
# References in the row of an entry

The row of an entry lists units, portfolios and stakeholders in the order of their labels. Of several
records of one person only the first counts that is not deleted, wherever deleted ones stand, and it
also decides where the person stands among others of the same label.

## Main definitions

* `firstRecord?`, `firstPlace`: the record of a person that counts, and its place
* `FirstRecords`: the records that are kept when some people were seen before
* `ListsPeople`: the references that stand for the people of some records
* `ShowsEntity`, `ListsEntities`: the references that show entities, in the order of labels

## Main results

* `isStableSort_sortByLabel`: references are put in the stable order of labels
* `listsEntities_iff`: entities are listed by sorting their references
* `firstRecords_firstPerActor`: which records are kept
* `PortfolioEntryRow.listsReferences`: the three lists of an entry
-/

namespace DataGrid

open Std (TransCmp)

/-! ## The order of labels -/

/-- References by their labels, by code points. -/
def compareLabels (a b : Reference) : Ordering := compare a.label b.label

instance : TransCmp compareLabels := transCmp_key compare Reference.label

theorem isLE_compareLabels_iff {a b : Reference} : (compareLabels a b).isLE ↔ ¬ b.label < a.label := by
  rw [String.not_lt]
  exact isLE_compareOfLessAndEq String.le_antisymm String.not_le String.le_total

/-- **Order of labels.** References are put in the stable order of their labels. -/
theorem isStableSort_sortByLabel (refs : List Reference) :
    IsStableSort compareLabels refs (sortByLabel refs) := by
  have hbyLabel : byLabel = fun a b => (compareLabels a b).isLE := by
    funext a b
    rw [Bool.eq_iff_iff, isLE_compareLabels_iff, byLabel, Bool.not_eq_true', decide_eq_false_iff_not]
  rw [isStableSort_iff, sortByLabel, hbyLabel]

section Entities

variable {α : Type} {id : α → Int64} {label : α → String} {address : Int64 → String}

/-- A reference shows an entity by its id, its label and the address of its page. -/
def ShowsEntity (id : α → Int64) (label : α → String) (address : Int64 → String) (entity : α)
    (ref : Reference) : Prop :=
  ref.id = id entity ∧ ref.label = label entity ∧ ref.url = some (address (id entity))

theorem showsEntity_iff {entity : α} {ref : Reference} :
    ShowsEntity id label address entity ref ↔
      ⟨id entity, label entity, some (address (id entity))⟩ = ref := by
  cases ref
  simp [ShowsEntity, eq_comm]

/-- **Entities by label.** All of them are shown, in the stable order of their labels. -/
def ListsEntities (id : α → Int64) (label : α → String) (address : Int64 → String)
    (entities : List α) (shown : List Reference) : Prop :=
  ∃ ordered, IsStableSort (compareOn label) entities ordered ∧
    List.Forall₂ (ShowsEntity id label address) ordered shown

/-- **Entities and references.** The references that show entities list them just where they are put
in the order of labels. -/
theorem listsEntities_iff {reference : α → Reference}
    (h : ∀ a, ShowsEntity id label address a (reference a)) (entities : List α)
    (shown : List Reference) :
    ListsEntities id label address entities shown ↔
      shown = sortByLabel (entities.map reference) := by
  have hshows : ShowsEntity id label address = fun a ref => reference a = ref := by
    funext a ref
    rw [eq_iff_iff, showsEntity_iff, showsEntity_iff.mp (h a)]
  have hrefs (ordered : List α) :
      List.Forall₂ (ShowsEntity id label address) ordered shown ↔
        shown = ordered.map reference := by
    rw [hshows, ← List.forall₂_map_left_iff, List.forall₂_eq_eq_eq, eq_comm]
  -- entities are compared by the labels of their references
  have hsort : sortByLabel (entities.map reference) =
      (entities.mergeSort fun a b => (compareOn label a b).isLE).map reference := by
    rw [isStableSort_iff.mp (isStableSort_sortByLabel (entities.map reference))]
    refine (List.map_mergeSort fun a _ b _ => ?_).symm
    rw [compareLabels, (h a).2.1, (h b).2.1, compareOn]
  have := transCmp_key compare label
  rw [hsort]
  constructor
  · rintro ⟨ordered, hordered, hshown⟩
    rw [(hrefs ordered).mp hshown, isStableSort_iff.mp hordered]
  · intro hshown
    exact ⟨_, isStableSort_mergeSort entities, (hrefs _).mpr hshown⟩

end Entities

theorem OrgUnit.showsEntity_reference (routes : Routes) (o : OrgUnit) :
    ShowsEntity OrgUnit.id OrgUnit.name routes.orgUnitView o (o.reference routes) :=
  ⟨rfl, rfl, rfl⟩

theorem Portfolio.showsEntity_reference (routes : Routes) (p : Portfolio) :
    ShowsEntity Portfolio.id Portfolio.name routes.portfolioOverview p (p.reference routes) :=
  ⟨rfl, rfl, rfl⟩

/-! ## First records -/

/-- Whether a record is one of the person with an id, and the person is not deleted. -/
def isRecordOf (id : Int64) (s : Stakeholder) : Bool := !s.actor.deleted && s.actor.id == id

/-- **First record.** The first record of a person that is not deleted. -/
def firstRecord? (records : List Stakeholder) (id : Int64) : Option Stakeholder :=
  records.find? (isRecordOf id)

/-- The place of the first record of a person that is not deleted. -/
def firstPlace (records : List Stakeholder) (id : Int64) : Nat :=
  records.findIdx (isRecordOf id)

section FirstRecords

variable {seen : List Int64} {records firsts : List Stakeholder} {r : Stakeholder} {id : Int64}

theorem firstRecord?_cons_of_not (h : isRecordOf id r = false) :
    firstRecord? (r :: records) id = firstRecord? records id :=
  List.find?_cons_of_neg (Bool.eq_false_iff.mp h)

theorem firstPlace_cons_of_not (h : isRecordOf id r = false) :
    firstPlace (r :: records) id = firstPlace records id + 1 := by
  rw [firstPlace, List.findIdx_cons, h, cond_false, firstPlace]

theorem isRecordOf_self (h : r.actor.deleted = false) : isRecordOf r.actor.id r = true := by
  rw [isRecordOf, h, beq_self_eq_true]
  rfl

theorem firstRecord?_cons_self (h : r.actor.deleted = false) :
    firstRecord? (r :: records) r.actor.id = some r :=
  List.find?_cons_of_pos (isRecordOf_self h)

theorem firstPlace_cons_self (h : r.actor.deleted = false) :
    firstPlace (r :: records) r.actor.id = 0 := by
  rw [firstPlace, List.findIdx_cons, isRecordOf_self h, cond_true]

/-- **Kept records.** Those that are the first of their person, in their order, for every person who
was not seen before and has a record. -/
structure FirstRecords (seen : List Int64) (records firsts : List Stakeholder) : Prop where
  notMem_seen : ∀ s ∈ firsts, s.actor.id ∉ seen
  isFirst : ∀ s ∈ firsts, firstRecord? records s.actor.id = some s
  ordered : firsts.Pairwise fun s t =>
    firstPlace records s.actor.id < firstPlace records t.actor.id
  complete : ∀ id ∉ seen, (firstRecord? records id).isSome → ∃ s ∈ firsts, s.actor.id = id

namespace FirstRecords

/-- A record in front that counts for nobody changes nothing. -/
theorem skip (h : FirstRecords seen records firsts) (hr : ∀ id ∉ seen, isRecordOf id r = false) :
    FirstRecords seen (r :: records) firsts where
  notMem_seen := h.notMem_seen
  isFirst s hs := by
    rw [firstRecord?_cons_of_not (hr _ (h.notMem_seen s hs)), h.isFirst s hs]
  ordered := by
    refine h.ordered.imp_of_mem fun {s t} hs ht hlt => ?_
    rw [firstPlace_cons_of_not (hr _ (h.notMem_seen s hs)),
      firstPlace_cons_of_not (hr _ (h.notMem_seen t ht))]
    omega
  complete id hid hsome := by
    rw [firstRecord?_cons_of_not (hr id hid)] at hsome
    exact h.complete id hid hsome

/-- A record in front of a person who was not seen before is kept, and its person is seen from
then on. -/
theorem take (h : FirstRecords (r.actor.id :: seen) records firsts)
    (hdeleted : r.actor.deleted = false) (hr : r.actor.id ∉ seen) :
    FirstRecords seen (r :: records) (r :: firsts) := by
  have hother : ∀ id, id ≠ r.actor.id → isRecordOf id r = false := fun id hne => by
    rw [isRecordOf, beq_eq_false_iff_ne.mpr hne.symm, Bool.and_false]
  have hne : ∀ s ∈ firsts, s.actor.id ≠ r.actor.id := fun s hs =>
    List.ne_of_not_mem_cons (h.notMem_seen s hs)
  refine ⟨?_, ?_, ?_, ?_⟩
  · exact List.forall_mem_cons.mpr
      ⟨hr, fun s hs => List.not_mem_of_not_mem_cons (h.notMem_seen s hs)⟩
  · refine List.forall_mem_cons.mpr ⟨firstRecord?_cons_self hdeleted, fun s hs => ?_⟩
    rw [firstRecord?_cons_of_not (hother _ (hne s hs)), h.isFirst s hs]
  · refine List.pairwise_cons.mpr ⟨fun s hs => ?_, ?_⟩
    · rw [firstPlace_cons_self hdeleted, firstPlace_cons_of_not (hother _ (hne s hs))]
      exact Nat.succ_pos _
    · refine h.ordered.imp_of_mem fun {s t} hs ht hlt => ?_
      rw [firstPlace_cons_of_not (hother _ (hne s hs)),
        firstPlace_cons_of_not (hother _ (hne t ht))]
      omega
  · intro id hid hsome
    by_cases hsame : id = r.actor.id
    · exact ⟨r, List.mem_cons_self, hsame.symm⟩
    · rw [firstRecord?_cons_of_not (hother id hsame)] at hsome
      obtain ⟨s, hs, hid⟩ := h.complete id (List.not_mem_cons_of_ne_of_not_mem hsame hid) hsome
      exact ⟨s, List.mem_cons_of_mem r hs, hid⟩

end FirstRecords

/-- **First records are kept.** Deleted records are left out first, so they stand in nobody's way. -/
theorem firstRecords_firstPerActor (seen : List Int64) (records : List Stakeholder) :
    FirstRecords seen records (firstPerActor seen (records.filter (!·.actor.deleted))) := by
  induction records generalizing seen with
  | nil => exact ⟨by simp [firstPerActor], by simp [firstPerActor], .nil, by simp [firstRecord?]⟩
  | cons r records ih =>
    cases hdeleted : r.actor.deleted with
    | true =>
      rw [List.filter_cons_of_neg (by simp [hdeleted])]
      exact (ih seen).skip fun id _ => by rw [isRecordOf, hdeleted]; rfl
    | false =>
      rw [List.filter_cons_of_pos (by simp [hdeleted]), firstPerActor]
      by_cases hseen : r.actor.id ∈ seen
      · rw [if_pos (List.contains_iff_mem.mpr hseen)]
        refine (ih seen).skip fun id hid => ?_
        rw [isRecordOf, beq_eq_false_iff_ne.mpr (ne_of_mem_of_not_mem hseen hid), Bool.and_false]
      · rw [if_neg (mt List.contains_iff_mem.mp hseen)]
        exact (ih _).take hdeleted hseen

end FirstRecords

/-! ## Lists of an entry -/

/-- **People of records.** Everyone with a record that is not deleted is listed once, with the name
and the address of the first such record, and nobody else is. The names are in order, and those of
one name are in the order of these records. -/
structure ListsPeople (routes : Routes) (records : List Stakeholder) (shown : List Reference) :
    Prop where
  mem_ids_iff : ∀ id, id ∈ shown.map (·.id) ↔
    ∃ s ∈ records, s.actor.deleted = false ∧ s.actor.id = id
  nodup_ids : (shown.map (·.id)).Nodup
  isFirst : ∀ ref ∈ shown, ∃ s, firstRecord? records ref.id = some s ∧ ref.label = s.actor.name ∧
    ref.url = some (routes.actorView ref.id)
  ordered : shown.Pairwise fun a b => a.label < b.label ∨
    a.label = b.label ∧ firstPlace records a.id < firstPlace records b.id

theorem isSome_firstRecord?_iff {records : List Stakeholder} {id : Int64} :
    (firstRecord? records id).isSome ↔
      ∃ s ∈ records, s.actor.deleted = false ∧ s.actor.id = id := by
  simp [firstRecord?, isRecordOf]

/-- The references of kept records, in the order of labels, are those of the people. -/
theorem FirstRecords.listsPeople {records firsts : List Stakeholder}
    (h : FirstRecords [] records firsts) (routes : Routes) :
    ListsPeople routes records (sortByLabel (firsts.map (·.actor.reference routes))) := by
  have hsorted := isStableSort_sortByLabel (firsts.map (·.actor.reference routes))
  have hids : ((sortByLabel (firsts.map (·.actor.reference routes))).map (·.id)).Perm
      (firsts.map (·.actor.id)) := by
    refine (hsorted.perm.map _).trans (.of_eq ?_)
    rw [List.map_map]
    rfl
  have hmem : ∀ ref ∈ sortByLabel (firsts.map (·.actor.reference routes)),
      ∃ s ∈ firsts, s.actor.reference routes = ref := fun ref href =>
    List.mem_map.mp (hsorted.perm.subset href)
  refine ⟨fun id => ?_, ?_, fun ref href => ?_, ?_⟩
  · rw [hids.mem_iff, List.mem_map, ← isSome_firstRecord?_iff]
    constructor
    · rintro ⟨s, hs, rfl⟩
      rw [h.isFirst s hs]
      rfl
    · exact h.complete id List.not_mem_nil
  · -- records with different places are records of different people
    refine hids.nodup_iff.mpr ?_
    refine (List.pairwise_map.mpr (h.ordered.imp fun {s t} hlt heq => ?_))
    rw [heq] at hlt
    exact Nat.lt_irrefl _ hlt
  · obtain ⟨s, hs, rfl⟩ := hmem ref href
    exact ⟨s, h.isFirst s hs, rfl, rfl⟩
  · have hplaces : (firsts.map (·.actor.reference routes)).Pairwise fun a b =>
        firstPlace records a.id < firstPlace records b.id := List.pairwise_map.mpr h.ordered
    have hties := hsorted.pairwise_of_key_eq Reference.label
      (fun _ _ => Std.LawfulEqOrd.compare_eq_iff_eq) hplaces
    refine (hsorted.ordered.and hties).imp fun {a b} hab => ?_
    -- labels in order are different, or the places decide
    rcases Ordering.isLE_iff_eq_lt_or_eq_eq.mp hab.1 with hlt | heq
    · exact .inl (compareOfLessAndEq_eq_lt.mp hlt)
    · have hlabel : a.label = b.label := Std.LawfulEqOrd.compare_eq_iff_eq.mp heq
      exact .inr ⟨hlabel, hab.2 hlabel⟩

namespace ListsPeople

variable {routes : Routes} {records : List Stakeholder} {shown shown' : List Reference}

/-- The people of records have one reference each. -/
theorem subset (h : ListsPeople routes records shown) (h' : ListsPeople routes records shown') :
    shown ⊆ shown' := by
  intro ref href
  obtain ⟨s, hs, hlabel, hurl⟩ := h.isFirst ref href
  have hid := (h'.mem_ids_iff ref.id).mpr
    ((h.mem_ids_iff ref.id).mp (List.mem_map_of_mem href))
  obtain ⟨ref', href', hid⟩ := List.mem_map.mp hid
  obtain ⟨s', hs', hlabel', hurl'⟩ := h'.isFirst ref' href'
  rw [hid, hs] at hs'
  cases hs'
  have hsame : ref' = ref := by
    cases ref
    cases ref'
    simp_all
  exact hsame ▸ href'

theorem nodup (h : ListsPeople routes records shown) : shown.Nodup :=
  (List.pairwise_map.mp h.nodup_ids).imp fun hne heq => hne (congrArg Reference.id heq)

/-- **There is one such list.** -/
theorem unique (h : ListsPeople routes records shown) (h' : ListsPeople routes records shown') :
    shown = shown' := by
  have hperm : shown.Perm shown' := (List.perm_ext_iff_of_nodup h.nodup h'.nodup).mpr
    fun _ => ⟨fun href => h.subset h' href, fun href => h'.subset h href⟩
  refine hperm.eq_of_pairwise (fun a b _ _ hab hba => ?_) h.ordered h'.ordered
  -- no two references stand before each other
  rcases hab with hlt | ⟨heq, hplace⟩
  · rcases hba with hgt | ⟨heq, -⟩
    · exact absurd (String.lt_trans hlt hgt) (String.lt_irrefl _)
    · rw [heq] at hlt
      exact absurd hlt (String.lt_irrefl _)
  · rcases hba with hgt | ⟨-, hplace'⟩
    · rw [heq] at hgt
      exact absurd hgt (String.lt_irrefl _)
    · omega

end ListsPeople

/-- **References of an entry.** The row of an entry lists the people with a record that is not
deleted, each by the first of these records, in the order of names and, for one name, of records.
Units and portfolios are all there, in the stable order of their names, each with its own id, name and
page. This leaves one list of each kind. -/
theorem PortfolioEntryRow.listsReferences (routes : Routes) (e : PortfolioEntry)
    (shown : List Reference) :
    (ListsPeople routes e.stakeholders shown ↔ shown = (new routes e).stakeholders) ∧
      (ListsEntities OrgUnit.id OrgUnit.name routes.orgUnitView e.deliveryUnits shown ↔
        shown = (new routes e).deliveryUnits) ∧
      (ListsEntities Portfolio.id Portfolio.name routes.portfolioOverview e.portfolios shown ↔
        shown = (new routes e).portfolios) := by
  have hpeople : ListsPeople routes e.stakeholders (new routes e).stakeholders :=
    (firstRecords_firstPerActor [] e.stakeholders).listsPeople routes
  refine ⟨⟨fun h => h.unique hpeople, ?_⟩, ?_, ?_⟩
  · rintro rfl
    exact hpeople
  · exact listsEntities_iff (OrgUnit.showsEntity_reference routes) e.deliveryUnits shown
  · exact listsEntities_iff (Portfolio.showsEntity_reference routes) e.portfolios shown

/-- A record of a person with a first name. -/
def recordOf (id : Nat) (name : String) (deleted : Bool) : Stakeholder where
  id := .ofNat 1
  actor := ⟨.ofNat id, name, none, name, "", none, true, deleted, none, none⟩
  type := ⟨.ofNat 1, "Sponsor"⟩
  portfolioId := none

/-- The deleted record of the second person is passed over, and of two people of one name the one
with the earlier record stands first. -/
example :
    (sortByLabel ((firstPerActor [] (([recordOf 2 "Ada" true, recordOf 3 "Bea" false,
      recordOf 2 "Bea" false, recordOf 3 "Ada" false, recordOf 1 "Ada" false]).filter
        (!·.actor.deleted))).map (·.actor.reference .standard))).map (·.id) = [1, 3, 2] := by
  cbv

end DataGrid
