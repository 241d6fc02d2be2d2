import DataGrid.Proofs.Filter.PostQuery
import DataGrid.Proofs.View.EntryFilter

/-!
# The order of next milestones

Entries are compared by their next milestones after loading: by name, or by date. An entry may have
none, and then it is the last one. Both comparisons are total preorders: they are reversed when the
entries are exchanged, and to be at most another entry or equal to it is transitive. So entries can
be sorted by them. In the order of dates the entries with a date stand together, the earliest or the latest
first, and those without one stand behind or in front of them as they were loaded.

## Main definitions

* `PresentInOrder`: the items with a key, in the order of keys
* `EarliestFirst`, `LatestFirst`: entries in the order of the dates of their next milestones

## Main results

* `transCmp_compareMissingLast`: keys that may be missing are compared by a total preorder
* `IsStableSort.exists_present_append`, `IsStableSort.exists_append_present`: sorting by keys that
  may be missing, in both directions
* `EntryFilter.ordersByNextMilestone`: the order of entries by their next milestones
-/

namespace DataGrid

open Std (TransCmp LawfulEqCmp OrientedCmp)
open Calendar

/-! ## Keys that may be missing -/

section MissingLast

variable {α β : Type} {cmp : β → β → Ordering} {key : α → Option β} {input output : List α}

/-- A key is at most another one if that one is missing or neither of them is. -/
theorem isLE_compareMissingLast_iff (a b : Option β) :
    (compareMissingLast cmp a b).isLE ↔ ∀ y ∈ b, ∃ x ∈ a, (cmp x y).isLE := by
  cases a <;> cases b <;> simp [compareMissingLast]

theorem compareMissingLast_eq_iff [LawfulEqCmp cmp] (a b : Option β) :
    compareMissingLast cmp a b = .eq ↔ a = b := by
  cases a <;> cases b <;> simp [compareMissingLast, LawfulEqCmp.compare_eq_iff_eq]

theorem compareMissingLast_swap [OrientedCmp cmp] (a b : Option β) :
    compareMissingLast cmp a b = (compareMissingLast cmp b a).swap := by
  cases a with
  | none => cases b <;> rfl
  | some x =>
    cases b with
    | none => rfl
    | some y =>
      have hswap : cmp x y = (cmp y x).swap := OrientedCmp.eq_swap
      exact hswap

/-- **Missing last.** Keys that may be missing are compared by a total preorder if the keys are. -/
instance transCmp_compareMissingLast [TransCmp cmp] : TransCmp (compareMissingLast cmp) where
  eq_swap := compareMissingLast_swap _ _
  isLE_trans {a b c} hab hbc := by
    rw [isLE_compareMissingLast_iff] at hab hbc ⊢
    intro z hz
    obtain ⟨y, hy, hyz⟩ := hbc z hz
    obtain ⟨x, hx, hxy⟩ := hab y hy
    exact ⟨x, hx, TransCmp.isLE_trans hxy hyz⟩

theorem filter_isNone [DecidableEq β] (l : List α) :
    (l.filter fun a => (key a).isNone) = l.filter fun a => key a = none := by
  refine List.filter_congr fun a _ => ?_
  cases key a <;> simp

/-- **Present keys in order.** The items with a key, in the order of keys, and those with one key as
they were. -/
structure PresentInOrder [DecidableEq β] (key : α → Option β) (mayPrecede : β → β → Prop)
    (input present : List α) : Prop where
  isSome : ∀ a ∈ present, (key a).isSome
  ordered : present.Pairwise fun a b => ∀ x ∈ key a, ∀ y ∈ key b, mayPrecede x y
  stable : ∀ x, (present.filter fun a => key a = some x) = input.filter fun a => key a = some x

variable [DecidableEq β] {mayPrecede : β → β → Prop}

/-- What has a key in a list that is in order. -/
theorem presentInOrder_filter
    (hordered : output.Pairwise fun a b => ∀ x ∈ key a, ∀ y ∈ key b, mayPrecede x y)
    (hstable : ∀ k, (output.filter fun a => key a = k) = input.filter fun a => key a = k) :
    PresentInOrder key mayPrecede input (output.filter fun a => (key a).isSome) where
  isSome a ha := (List.mem_filter.mp ha).2
  ordered := hordered.filter _
  stable x := by
    rw [← hstable, List.filter_filter]
    refine List.filter_congr fun a _ => ?_
    rw [Bool.and_eq_left_iff_imp, decide_eq_true_iff]
    intro ha
    rw [ha, Option.isSome_some]

variable [LawfulEqCmp cmp]

/-- **Ascending keys.** The items with a key come first, and behind them are the others as they
were. -/
theorem IsStableSort.exists_present_append
    (h : IsStableSort (fun a b => compareMissingLast cmp (key a) (key b)) input output) :
    ∃ present, PresentInOrder key (fun x y => (cmp x y).isLE) input present ∧
      output = present ++ input.filter fun a => (key a).isNone := by
  have hstable := h.filter_key_eq compareMissingLast_eq_iff
  have hordered := h.ordered.imp fun {a b} => (isLE_compareMissingLast_iff (key a) (key b)).mp
  refine ⟨_, presentInOrder_filter (hordered.imp ?_) hstable, ?_⟩
  · intro a b hab x hx y hy
    obtain ⟨x', hx', hle⟩ := hab y hy
    rwa [Option.mem_unique hx hx']
  · have hfirst : output.Pairwise fun a b => (key b).isSome → (key a).isSome := by
      refine hordered.imp fun {a b} hab hb => ?_
      obtain ⟨y, hy⟩ := Option.isSome_iff_exists.mp hb
      obtain ⟨x, hx, -⟩ := hab y hy
      exact Option.isSome_of_mem hx
    have hsplit := eq_filter_append_filter_not hfirst
    simp only [Option.not_isSome] at hsplit
    rwa [filter_isNone, hstable none, ← filter_isNone] at hsplit

/-- **Descending keys.** The items without a key come first, as they were. -/
theorem IsStableSort.exists_append_present [OrientedCmp cmp]
    (h : IsStableSort (fun a b => (compareMissingLast cmp (key a) (key b)).swap) input output) :
    ∃ present, PresentInOrder key (fun x y => (cmp y x).isLE) input present ∧
      output = (input.filter fun a => (key a).isNone) ++ present := by
  -- the reverse order is the order of the exchanged items
  simp only [← compareMissingLast_swap] at h
  have hstable : ∀ k, (output.filter fun a => key a = k) = input.filter fun a => key a = k :=
    h.filter_key_eq fun (k l : Option β) => (compareMissingLast_eq_iff l k).trans eq_comm
  have hordered := h.ordered.imp fun {a b} => (isLE_compareMissingLast_iff (key b) (key a)).mp
  refine ⟨_, presentInOrder_filter (hordered.imp ?_) hstable, ?_⟩
  · intro a b hab x hx y hy
    obtain ⟨y', hy', hle⟩ := hab x hx
    rwa [Option.mem_unique hy hy']
  · have hfirst : output.Pairwise fun a b => (key b).isNone → (key a).isNone := by
      refine hordered.imp fun {a b} hab hb => ?_
      rw [Option.isNone_iff_eq_none, Option.eq_none_iff_forall_not_mem]
      intro x hx
      obtain ⟨y, hy, -⟩ := hab x hx
      rw [Option.isNone_iff_eq_none.mp hb] at hy
      cases hy
    have hsplit := eq_filter_append_filter_not hfirst
    simp only [Option.not_isNone] at hsplit
    rwa [filter_isNone, hstable none, ← filter_isNone] at hsplit

end MissingLast

/-! ## Entries by date -/

/-- The date of the next milestone. -/
def PortfolioEntry.nextMilestoneDate? (e : PortfolioEntry) : Option Date :=
  e.nextMilestone?.bind (·.plannedDate)

/-- **Earliest first.** The entries whose next milestones have dates, no later one in front of an
earlier one and those of one date as they were. Behind them are the others, as they were. -/
def EarliestFirst (kept output : List PortfolioEntry) : Prop :=
  ∃ dated, PresentInOrder PortfolioEntry.nextMilestoneDate? (fun x y => x.atMost y) kept dated ∧
    output = dated ++ kept.filter (·.nextMilestoneDate?.isNone)

/-- **Latest first.** The entries whose next milestones have no dates, as they were. Behind them are
the others, no earlier one in front of a later one and those of one date as they were. -/
def LatestFirst (kept output : List PortfolioEntry) : Prop :=
  ∃ dated, PresentInOrder PortfolioEntry.nextMilestoneDate? (fun x y => y.atMost x) kept dated ∧
    output = kept.filter (·.nextMilestoneDate?.isNone) ++ dated

/-- Milestones are compared by a total preorder. -/
instance transCmp_nextMilestoneQuery : TransCmp nextMilestoneQuery.compare := by
  have : TransCmp compareText := inferInstanceAs (TransCmp (compare : String → String → Ordering))
  have := transCmp_key compareText fun m : PlannedMilestone => m.milestone.name
  exact transCmp_key (compareMissingLast _) PortfolioEntry.nextMilestone?

/-- So are their dates. -/
instance transCmp_nextMilestoneDateQuery : TransCmp nextMilestoneDateQuery.compare :=
  transCmp_key (compareMissingLast Date.compare) PortfolioEntry.nextMilestoneDate?

namespace EntryFilter

variable {lookup : Lookup} {routes : Routes} {attributes : FilterProvider}
  {settings : FilterSettings} {c : FilterConfig PortfolioEntry}

/-- The post queries of the filter, if there are enough milestones to choose among. -/
theorem postQueries_of_config (hconfig : config lookup routes attributes settings = .ok c) :
    c.postQueries = if (milestones lookup settings).isNone then [] else
      [("nextMilestone", nextMilestoneQuery), ("nextMilestoneDate", nextMilestoneDateQuery)] := by
  obtain ⟨-, rfl⟩ := FilterDraft.build_eq_ok_iff.mp hconfig
  rw [draft, FilterDraft.columnsFrom, withNextMilestone]
  split <;> rfl

theorem transCmp_of_mem_postQueries
    (hconfig : config lookup routes attributes settings = .ok c) :
    ∀ entry ∈ c.postQueries, TransCmp entry.2.compare := by
  rw [postQueries_of_config hconfig]
  intro entry hentry
  split at hentry
  · cases hentry
  · rcases List.mem_pair.mp hentry with rfl | rfl
    · exact transCmp_nextMilestoneQuery
    · exact transCmp_nextMilestoneDateQuery

theorem postQuery?_nextMilestoneDate
    (hconfig : config lookup routes attributes settings = .ok c)
    (hquery : c.hasPostQuery "nextMilestoneDate") :
    c.postQuery? "nextMilestoneDate" = some nextMilestoneDateQuery := by
  rw [FilterConfig.hasPostQuery, FilterConfig.postQuery?, postQueries_of_config hconfig] at hquery
  rw [FilterConfig.postQuery?, postQueries_of_config hconfig]
  split_ifs at hquery ⊢
  · cases hquery
  · rfl

/-- **Order of next milestones.** With enough milestones to choose among, the columns for the next
milestone bring post queries, and no other column does. They compare entries by total preorders.
Where a selection sorts by the date of the next milestone first, and that column brings its post
query, the entries that meet the selection are put in the order of those dates, the earliest or the
latest first. -/
theorem ordersByNextMilestone (hconfig : config lookup routes attributes settings = .ok c) :
    (∀ name, c.hasPostQuery name ↔
      name ∈ nextMilestoneColumns ∧ ¬ TooFew lookup settings .lifeCycleMilestones) ∧
    (∀ entry ∈ c.postQueries, TransCmp entry.2.compare) ∧
      ∀ d state entries, d.name = "nextMilestoneDate" → c.hasPostQuery d.name →
        (c.SortsFirstBy state d .ascending →
          EarliestFirst (entries.filter fun entry => c.Meets state entry)
            (c.applyPostQuery entries state)) ∧
        (c.SortsFirstBy state d .descending →
          LatestFirst (entries.filter fun entry => c.Meets state entry)
            (c.applyPostQuery entries state)) := by
  refine ⟨hasPostQuery_iff hconfig, transCmp_of_mem_postQueries hconfig,
    fun d state entries hname hhas => ?_⟩
  have hquery := postQuery?_nextMilestoneDate hconfig (hname ▸ hhas)
  rw [← hname] at hquery
  refine ⟨fun hfirst => ?_, fun hfirst => ?_⟩
  · have hsorted : IsStableSort (fun a b => compareMissingLast Date.compare a.nextMilestoneDate?
        b.nextMilestoneDate?) (entries.filter fun entry => c.Meets state entry)
          (c.applyPostQuery entries state) :=
      FilterConfig.isStableSort_applyPostQuery hfirst hquery entries
    exact hsorted.exists_present_append
  · have hsorted : IsStableSort (fun a b => (compareMissingLast Date.compare a.nextMilestoneDate?
        b.nextMilestoneDate?).swap) (entries.filter fun entry => c.Meets state entry)
          (c.applyPostQuery entries state) :=
      FilterConfig.isStableSort_applyPostQuery hfirst hquery entries
    exact hsorted.exists_append_present

def launch : Milestone := ⟨.ofNat 1, "L", "Launch"⟩

/-- An entry with a plan for the launch. -/
def launchEntry (id : Nat) (planned : Option Date) : PortfolioEntry where
  id := .ofNat id
  governanceId := none
  creationDate := none
  name := "Core"
  isPublic := true
  archived := false
  type := none
  manager := none
  sponsoringUnit := none
  deliveryUnits := []
  portfolios := []
  stakeholders := []
  lifeCycle := none
  lastMilestone := none
  plannedMilestones := [⟨launch, planned, false⟩]
  lastReport := none
  startDate := none
  endDate := none

/-- The lookup with the launch to choose. -/
def launchLookup : Lookup :=
  (EntityStore.withOptions .lifeCycleMilestones [⟨launch.id, launch.shortName⟩] {}).lookup

/-- The filter of entries with the launch to choose. -/
def launchFilter : FilterConfig PortfolioEntry :=
  ⟨(draft launchLookup .standard (fun _ => []) {}).descriptors,
    (draft launchLookup .standard (fun _ => []) {}).postQueries⟩

/-- The selection that sorts by the date of the next milestone only. -/
def byNextMilestoneDate (sort : SortStatus) : FilterState :=
  ⟨[("nextMilestoneDate", ⟨true, false, .null, sort⟩)]⟩

def may : Date := ⟨2024, 5, 1, by decide⟩

def march : Date := ⟨2024, 3, 1, by decide⟩

/-- Entries of which some have no date. -/
def launchEntries : List PortfolioEntry :=
  [launchEntry 1 none, launchEntry 2 may, launchEntry 3 march, launchEntry 4 none]

/-- Entries with dates are put in order, in both directions, and those without stay in theirs. -/
theorem ordersByNextMilestone_launch :
    config launchLookup .standard (fun _ => []) {} = .ok launchFilter ∧
      launchFilter.hasPostQuery "nextMilestoneDate" ∧
      EarliestFirst launchEntries
        (launchFilter.applyPostQuery launchEntries (byNextMilestoneDate .ascending)) ∧
      LatestFirst launchEntries
        (launchFilter.applyPostQuery launchEntries (byNextMilestoneDate .descending)) := by
  have hcheck : FilterDraft.check []
      (draft launchLookup .standard (fun _ => []) {}).descriptors = .ok () := by
    rw [check_draft]
    decide +kernel
  have hconfig : config launchLookup .standard (fun _ => []) {} = .ok launchFilter :=
    FilterDraft.build_eq_ok_iff.mpr ⟨FilterDraft.check_nil_eq_ok_iff.mp hcheck, rfl⟩
  have hquery : launchFilter.hasPostQuery "nextMilestoneDate" := by decide +kernel
  have hkept (sort : SortStatus) : (launchEntries.filter fun entry =>
      launchFilter.Meets (byNextMilestoneDate sort) entry) = launchEntries := by
    refine List.filter_eq_self.mpr fun entry _ => decide_eq_true ?_
    intro d _ column query hcolumn _ hfiltered
    -- the one column of the selection is not filtered
    rw [FilterState.column?, byNextMilestoneDate, Dictionary.lookup_cons] at hcolumn
    split_ifs at hcolumn
    · cases hcolumn
      cases hfiltered
    · cases hcolumn
  obtain ⟨-, -, horder⟩ := ordersByNextMilestone hconfig
  obtain ⟨d, hname, hascending⟩ := (FilterConfig.sortColumn_eq_some_iff _ _).mp
    (by decide +kernel : launchFilter.sortColumn (byNextMilestoneDate .ascending) =
      some ("nextMilestoneDate", .ascending))
  obtain ⟨d', hname', hdescending⟩ := (FilterConfig.sortColumn_eq_some_iff _ _).mp
    (by decide +kernel : launchFilter.sortColumn (byNextMilestoneDate .descending) =
      some ("nextMilestoneDate", .descending))
  refine ⟨hconfig, hquery, ?_, ?_⟩
  · have hearliest := (horder d _ launchEntries hname (hname ▸ hquery)).1 hascending
    rwa [hkept] at hearliest
  · have hlatest := (horder d' _ launchEntries hname' (hname' ▸ hquery)).2 hdescending
    rwa [hkept] at hlatest

example :
    (launchFilter.applyPostQuery launchEntries (byNextMilestoneDate .ascending)).map (·.id) =
        [3, 2, 1, 4] ∧
      (launchFilter.applyPostQuery launchEntries (byNextMilestoneDate .descending)).map (·.id) =
        [1, 4, 2, 3] := ⟨by cbv, by cbv⟩

end EntryFilter

end DataGrid
