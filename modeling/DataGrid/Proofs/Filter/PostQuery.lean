import DataGrid.Filter.Config
import DataGrid.Proofs.Dictionary
import DataGrid.Proofs.StableSort

/-!
# Filtering and ordering loaded entities

A selection keeps the entities that meet every submitted value it can be tested with. It puts
them in the order of the first column it sorts by, if that column can order entities, and
otherwise leaves them in the order in which they were loaded.

## Main definitions

* `FilterConfig.Meets`: an entity meets the submitted values of a selection
* `FilterConfig.SortsFirstBy`: the column that a selection sorts by, and how
* `PostQuery.comparison`: the comparison for a direction

## Main results

* `FilterConfig.applyPostQuery_of_sorted`, `FilterConfig.applyPostQuery_of_unsorted`: what is
  kept, in order or as it was loaded
* `FilterConfig.applyPostQuery_isStableSort`: the kept entities and their order
-/

namespace DataGrid

open Std (TransCmp)

variable {ε : Type}

/-! ## Directions -/

/-- The comparison for a direction: its own, or the reverse for a descending order. -/
def PostQuery.comparison (query : PostQuery ε) : SortStatus → ε → ε → Ordering
  | .descending => fun a b => (query.compare a b).swap
  | _ => query.compare

theorem PostQuery.transCmp_comparison (query : PostQuery ε) [TransCmp query.compare]
    (sort : SortStatus) : TransCmp (query.comparison sort) := by
  cases sort with
  | descending => exact transCmp_swap
  | none | unsorted | ascending => assumption

namespace FilterConfig

variable {config : FilterConfig ε} {state : FilterState}

theorem precedes_eq (query : PostQuery ε) (sort : SortStatus) :
    precedes query sort = fun a b => (query.comparison sort a b).isLE := by
  cases sort <;> rfl

/-! ## What is kept -/

/-- **Meeting a selection.** The entity passes the test of every column that is filtered and
has a post query, with the value that was submitted for the column. -/
def Meets (config : FilterConfig ε) (state : FilterState) (entity : ε) : Prop :=
  ∀ d ∈ config.descriptors, ∀ column query, state.column? d.name = some column →
    config.postQuery? d.name = some query → column.filtered → query.test entity column.value

theorem accepts_iff (entity : ε) :
    config.accepts state entity ↔ config.Meets state entity := by
  rw [accepts, List.all_eq_true]
  refine forall₂_congr fun d _ => ?_
  constructor
  · intro h column query hcolumn hquery hfiltered
    simpa [hcolumn, hquery, hfiltered] using h
  · intro h
    cases hcolumn : state.column? d.name with
    | none => rfl
    | some column =>
      cases hquery : config.postQuery? d.name with
      | none => rfl
      | some query =>
        have := h column query hcolumn hquery
        cases hfiltered : column.filtered <;> simp_all

instance (entity : ε) : Decidable (config.Meets state entity) :=
  decidable_of_iff _ (accepts_iff entity)

theorem filter_accepts (entities : List ε) :
    entities.filter (config.accepts state) =
      entities.filter fun entity => config.Meets state entity := by
  refine List.filter_congr fun entity _ => Bool.eq_iff_iff.mpr ?_
  rw [accepts_iff, decide_eq_true_iff]

/-! ## The column that orders -/

/-- The selection sorts by the column of a descriptor. -/
def Sorts (state : FilterState) (d : FilterDescriptor) (sort : SortStatus) : Prop :=
  sort.isSorted ∧ ∃ column, state.column? d.name = some column ∧ column.sort = sort

/-- **First sorted column.** The selection sorts by the column of `d` and by no column before
it. -/
def SortsFirstBy (config : FilterConfig ε) (state : FilterState) (d : FilterDescriptor)
    (sort : SortStatus) : Prop :=
  ∃ before after, config.descriptors = before ++ d :: after ∧ Sorts state d sort ∧
    ∀ other ∈ before, ∀ status, ¬ Sorts state other status

/-- The status of a descriptor's column, if the selection sorts by it. -/
private theorem sortStatus_eq_some_iff (d : FilterDescriptor) (name : String)
    (sort : SortStatus) :
    (match state.column? d.name with
      | some column => if column.sort.isSorted then some (d.name, column.sort) else none
      | none => none) = some (name, sort) ↔ d.name = name ∧ Sorts state d sort := by
  cases hcolumn : state.column? d.name with
  | none => simp [Sorts, hcolumn]
  | some column =>
    by_cases hsorted : column.sort.isSorted
    · simp only [hsorted, if_true, Option.some.injEq, Prod.mk.injEq, Sorts, hcolumn]
      constructor
      · rintro ⟨rfl, rfl⟩
        exact ⟨rfl, hsorted, column, rfl, rfl⟩
      · rintro ⟨rfl, -, _, rfl, rfl⟩
        exact ⟨rfl, rfl⟩
    · simp only [hsorted, Sorts, hcolumn]
      constructor
      · intro h
        cases h
      · rintro ⟨-, hsort, _, h, rfl⟩
        cases h
        exact absurd hsort hsorted

theorem sortColumn_eq_some_iff (name : String) (sort : SortStatus) :
    config.sortColumn state = some (name, sort) ↔
      ∃ d, d.name = name ∧ config.SortsFirstBy state d sort := by
  rw [sortColumn, List.findSome?_eq_some_iff]
  constructor
  · -- the first status that is found is that of a column before which none is sorted
    rintro ⟨before, d, after, hlist, hd, hbefore⟩
    obtain ⟨hname, hsort⟩ := (sortStatus_eq_some_iff d name sort).mp hd
    refine ⟨d, hname, before, after, hlist, hsort, fun other hother status hstatus => ?_⟩
    have hsome := (sortStatus_eq_some_iff other other.name status).mpr ⟨rfl, hstatus⟩
    exact absurd (hsome.symm.trans (hbefore other hother)) (by simp)
  · rintro ⟨d, hname, before, after, hlist, hsort, hbefore⟩
    refine ⟨before, d, after, hlist, (sortStatus_eq_some_iff d name sort).mpr ⟨hname, hsort⟩,
      fun other hother => ?_⟩
    refine Option.eq_none_iff_forall_not_mem.mpr fun ⟨otherName, status⟩ h => ?_
    exact hbefore other hother status ((sortStatus_eq_some_iff other otherName status).mp h).2

/-! ## The result -/

/-- What is kept, in the stable order of the first sorted column. -/
theorem applyPostQuery_of_sorted {d : FilterDescriptor} {sort : SortStatus}
    {query : PostQuery ε} (hfirst : config.SortsFirstBy state d sort)
    (hquery : config.postQuery? d.name = some query) (entities : List ε) :
    config.applyPostQuery entities state =
      (entities.filter fun entity => config.Meets state entity).mergeSort
        fun a b => (query.comparison sort a b).isLE := by
  have hcolumn := (sortColumn_eq_some_iff d.name sort).mpr ⟨d, rfl, hfirst⟩
  simp only [applyPostQuery, hcolumn, hquery, filter_accepts, precedes_eq]

/-- By a total preorder, it is the stable sort of what is kept. -/
theorem isStableSort_applyPostQuery {d : FilterDescriptor} {sort : SortStatus}
    {query : PostQuery ε} [TransCmp query.compare] (hfirst : config.SortsFirstBy state d sort)
    (hquery : config.postQuery? d.name = some query) (entities : List ε) :
    IsStableSort (query.comparison sort)
      (entities.filter fun entity => config.Meets state entity)
      (config.applyPostQuery entities state) := by
  have := query.transCmp_comparison sort
  rw [isStableSort_iff, applyPostQuery_of_sorted hfirst hquery]

/-- What is kept, as it was loaded, if the first sorted column cannot order entities or there
is no such column. -/
theorem applyPostQuery_of_unsorted
    (hnone : ∀ d sort, config.SortsFirstBy state d sort → config.postQuery? d.name = none)
    (entities : List ε) :
    config.applyPostQuery entities state =
      entities.filter fun entity => config.Meets state entity := by
  rw [applyPostQuery, filter_accepts]
  cases hcolumn : config.sortColumn state with
  | none => rfl
  | some found =>
    obtain ⟨d, hname, hfirst⟩ := (sortColumn_eq_some_iff found.1 found.2).mp hcolumn
    simp only [← hname, hnone d found.2 hfirst]

/-- Ordered or not, the result holds what is kept. -/
theorem perm_applyPostQuery (config : FilterConfig ε) (entities : List ε) (state : FilterState) :
    (config.applyPostQuery entities state).Perm
      (entities.filter fun entity => config.Meets state entity) := by
  rw [applyPostQuery, filter_accepts]
  split
  · exact .refl _
  · split
    · exact .refl _
    · exact List.mergeSort_perm _ _

/-- **Filtering and ordering.** Where every post query compares by a total preorder, the result
holds the entities that meet the selection. Their order is that of the first sorted column if it
has a post query, equal entities standing as they were loaded, and otherwise the order of
loading. -/
theorem applyPostQuery_isStableSort (config : FilterConfig ε)
    (hcompare : ∀ entry ∈ config.postQueries, TransCmp entry.2.compare) (entities : List ε)
    (state : FilterState) :
    (config.applyPostQuery entities state).Perm
        (entities.filter fun entity => config.Meets state entity) ∧
      (∀ d sort query, config.SortsFirstBy state d sort →
        config.postQuery? d.name = some query → ∀ output,
          IsStableSort (query.comparison sort)
              (entities.filter fun entity => config.Meets state entity) output ↔
            output = config.applyPostQuery entities state) ∧
      ((∀ d sort, config.SortsFirstBy state d sort → config.postQuery? d.name = none) →
        config.applyPostQuery entities state =
          entities.filter fun entity => config.Meets state entity) := by
  refine ⟨perm_applyPostQuery config entities state, ?_,
    fun hnone => applyPostQuery_of_unsorted hnone entities⟩
  -- a total preorder has one stable sort, in either direction
  intro d sort query hfirst hquery output
  have := hcompare _ (Dictionary.mem_of_lookup hquery)
  have := query.transCmp_comparison sort
  rw [isStableSort_iff, applyPostQuery_of_sorted hfirst hquery]

/-- Ranks of at least a submitted number, in the order of ranks. -/
def rankQuery : PostQuery (String × Nat) where
  test := fun entry least =>
    match least with
    | .number (.integer n) => n ≤ entry.2
    | _ => false
  compare := compareOn Prod.snd

/-- The column of ranks. -/
def rankColumn : FilterDescriptor := .new "rank" "rank" "label.rank" (.textField "*")

/-- A filter of named ranks, of which only ranks are tested and compared in memory. -/
def rankFilter : FilterConfig (String × Nat) where
  descriptors := [.new "name" "name" "label.name" (.textField "*"), rankColumn]
  postQueries := [("rank", rankQuery)]

/-- Ranks from two on, the highest first. A column that the filter does not have is passed
over. -/
def highRanksFirst : FilterState :=
  ⟨[("other", ⟨true, true, .null, .ascending⟩), ("rank", ⟨true, true, .int 2, .descending⟩)]⟩

/-- Of two entries of one rank, the one that was loaded first stays first in a descending
order. -/
theorem applyPostQuery_highRanksFirst :
    (∀ entry ∈ rankFilter.postQueries, TransCmp entry.2.compare) ∧
      rankFilter.applyPostQuery [("a", 2), ("b", 3), ("c", 1), ("d", 2)] highRanksFirst =
        [("b", 3), ("a", 2), ("d", 2)] := by
  have hcompare : ∀ entry ∈ rankFilter.postQueries, TransCmp entry.2.compare := by
    intro entry hentry
    obtain rfl := List.mem_singleton.mp hentry
    exact inferInstanceAs (TransCmp (compareOn Prod.snd))
  refine ⟨hcompare, ?_⟩
  obtain ⟨-, hsorted, -⟩ := applyPostQuery_isStableSort rankFilter hcompare
    [("a", 2), ("b", 3), ("c", 1), ("d", 2)] highRanksFirst
  have hfirst : rankFilter.SortsFirstBy highRanksFirst rankColumn .descending := by
    refine ⟨[_], [], rfl, ⟨rfl, _, rfl, rfl⟩, fun other hother status => ?_⟩
    obtain rfl := List.mem_singleton.mp hother
    rintro ⟨-, column, hcolumn, -⟩
    cases hcolumn
  have hkept : ([("a", 2), ("b", 3), ("c", 1), ("d", 2)].filter fun entity =>
      rankFilter.Meets highRanksFirst entity) = [("a", 2), ("b", 3), ("d", 2)] := by decide
  rw [hkept] at hsorted
  refine ((hsorted rankColumn .descending rankQuery hfirst rfl _).mp
    ⟨by decide, by decide, fun entry => ?_⟩).symm
  -- no rank is both two and three, so the entries of one rank stand together
  by_cases htwo : entry.2 = 2
  · simp [rankQuery, PostQuery.comparison, compareOn, htwo]
  · by_cases hthree : entry.2 = 3
    · simp [rankQuery, PostQuery.comparison, compareOn, hthree]
    · simp [rankQuery, PostQuery.comparison, compareOn, htwo, hthree]

end FilterConfig

end DataGrid
