import DataGrid.Proofs.Filter.PostQuery

/-!
# Narrowing a selection

A user narrows a selection step by step: the columns that are filtered stay so with their values,
further ones are filtered, and the order stays the same. The narrower selection can then be applied
to what the wider one has left. It keeps the same entities, and as sorting is stable it puts them
in the same order, as if it were applied to all that was loaded.

## Main definitions

* `FilterConfig.Narrows`: one selection narrows another one

## Main results

* `FilterConfig.Narrows.meets`: what meets the narrower selection meets the wider one
* `FilterConfig.Narrows.sortsFirstBy_iff`: both selections sort by the same column
* `FilterConfig.applyPostQuery_applyPostQuery`: narrowing in steps and at once
-/

namespace DataGrid

open Std (TransCmp)

variable {ε : Type}

namespace FilterConfig

variable {config : FilterConfig ε} {first second : FilterState}

/-- **Narrowing.** Both selections sort by the same columns in the same directions, and each column
with a post query that is filtered in the first selection is filtered in the second one by the same
value. -/
structure Narrows (config : FilterConfig ε) (first second : FilterState) : Prop where
  sorts : ∀ d ∈ config.descriptors, ∀ sort, Sorts first d sort ↔ Sorts second d sort
  filters : ∀ d ∈ config.descriptors, config.hasPostQuery d.name → ∀ column,
    first.column? d.name = some column → column.filtered →
      ∃ narrower, second.column? d.name = some narrower ∧ narrower.filtered ∧
        narrower.value = column.value

/-- Two selections sort by a column alike if it has one status in both. -/
theorem sorts_congr {d : FilterDescriptor}
    (h : (first.column? d.name).map (·.sort) = (second.column? d.name).map (·.sort))
    (sort : SortStatus) : Sorts first d sort ↔ Sorts second d sort := by
  simp only [Sorts, ← Option.map_eq_some_iff, h]

namespace Narrows

theorem refl (config : FilterConfig ε) (state : FilterState) : config.Narrows state state where
  sorts _ _ _ := Iff.rfl
  filters _ _ _ column hcolumn hfiltered := ⟨column, hcolumn, hfiltered, rfl⟩

/-- An entity that meets the narrower selection meets the wider one. -/
theorem meets (h : config.Narrows first second) {entity : ε}
    (hmeets : config.Meets second entity) : config.Meets first entity := by
  intro d hd column query hcolumn hquery hfiltered
  have hhas : config.hasPostQuery d.name := by rw [hasPostQuery, hquery, Option.isSome_some]
  obtain ⟨narrower, hnarrower, hfiltered', hvalue⟩ := h.filters d hd hhas column hcolumn hfiltered
  rw [← hvalue]
  exact hmeets d hd narrower query hnarrower hquery hfiltered'

theorem filter_meets (h : config.Narrows first second) (entities : List ε) :
    ((entities.filter fun entity => config.Meets first entity).filter
        fun entity => config.Meets second entity) =
      entities.filter fun entity => config.Meets second entity := by
  rw [List.filter_filter]
  refine List.filter_congr fun entity _ => ?_
  rw [Bool.and_eq_left_iff_imp, decide_eq_true_iff, decide_eq_true_iff]
  exact h.meets

/-- The first column that is sorted by is the same one. -/
theorem sortsFirstBy_iff (h : config.Narrows first second) (d : FilterDescriptor)
    (sort : SortStatus) :
    config.SortsFirstBy first d sort ↔ config.SortsFirstBy second d sort := by
  refine exists_congr fun before => exists_congr fun after => and_congr_right fun hlist => ?_
  have hbefore : ∀ other ∈ before, ∀ status,
      Sorts first other status ↔ Sorts second other status := fun other hother =>
    h.sorts other (hlist ▸ List.mem_append_left _ hother)
  have hd : Sorts first d sort ↔ Sorts second d sort :=
    h.sorts d (hlist ▸ List.mem_append_right before List.mem_cons_self) sort
  rw [hd]
  refine and_congr_right fun _ => forall₂_congr fun other hother => ?_
  exact forall_congr' fun status => not_congr (hbefore other hother status)

/-- **Narrowing step.** Where post queries compare by total preorders, the narrower selection finds
in what the wider one has left what it finds in all entities. -/
theorem applyPostQuery_applyPostQuery (h : config.Narrows first second)
    (hcompare : ∀ entry ∈ config.postQueries, TransCmp entry.2.compare) (entities : List ε) :
    config.applyPostQuery (config.applyPostQuery entities first) second =
      config.applyPostQuery entities second := by
  by_cases hsorted : ∃ d sort query, config.SortsFirstBy second d sort ∧
      config.postQuery? d.name = some query
  · obtain ⟨d, sort, query, hsecond, hquery⟩ := hsorted
    have hfirst := (h.sortsFirstBy_iff d sort).mpr hsecond
    have := hcompare _ (Dictionary.mem_of_lookup hquery)
    have := query.transCmp_comparison sort
    rw [applyPostQuery_of_sorted hfirst hquery, applyPostQuery_of_sorted hsecond hquery,
      applyPostQuery_of_sorted hsecond hquery, mergeSort_filter_mergeSort, h.filter_meets]
  · -- neither selection sorts by a post query, so that both only filter
    have hsecond : ∀ d sort, config.SortsFirstBy second d sort →
        config.postQuery? d.name = none := fun d sort hd =>
      Option.eq_none_iff_forall_ne_some.mpr fun query hquery =>
        hsorted ⟨d, sort, query, hd, hquery⟩
    have hfirst : ∀ d sort, config.SortsFirstBy first d sort →
        config.postQuery? d.name = none := fun d sort hd =>
      hsecond d sort ((h.sortsFirstBy_iff d sort).mp hd)
    rw [applyPostQuery_of_unsorted hfirst, applyPostQuery_of_unsorted hsecond,
      applyPostQuery_of_unsorted hsecond, h.filter_meets]

end Narrows

/-- **Narrowing.** Where post queries compare by total preorders, a selection can be narrowed in
steps: the second selection finds in what the first one has left just what it finds in all
entities, in the same order. So a selection that is applied again changes nothing. -/
theorem applyPostQuery_narrowing (config : FilterConfig ε)
    (hcompare : ∀ entry ∈ config.postQueries, TransCmp entry.2.compare) (entities : List ε) :
    (∀ first second, config.Narrows first second →
      config.applyPostQuery (config.applyPostQuery entities first) second =
        config.applyPostQuery entities second) ∧
      ∀ state, config.applyPostQuery (config.applyPostQuery entities state) state =
        config.applyPostQuery entities state :=
  ⟨fun _ _ h => h.applyPostQuery_applyPostQuery hcompare entities,
    fun state => (Narrows.refl config state).applyPostQuery_applyPostQuery hcompare entities⟩

/-- Names that are a submitted one, in the order of names. -/
def nameQuery : PostQuery (String × Nat) where
  test := fun entry name =>
    match name with
    | .string s => entry.1 == s
    | _ => false
  compare := compareOn Prod.fst

def nameColumn : FilterDescriptor := .new "name" "name" "label.name" (.textField "*")

/-- A filter of named ranks, of which both names and ranks are tested and compared in memory. -/
def namedRanks : FilterConfig (String × Nat) where
  descriptors := [nameColumn, rankColumn]
  postQueries := [("name", nameQuery), ("rank", rankQuery)]

/-- The ranks of one name, the highest first. -/
def ranksOfName : FilterState :=
  ⟨[("name", ⟨true, true, .string "a", .none⟩), ("rank", ⟨true, false, .null, .descending⟩)]⟩

/-- The same, from rank two on. -/
def highRanksOfName : FilterState :=
  ⟨[("name", ⟨true, true, .string "a", .none⟩), ("rank", ⟨true, true, .int 2, .descending⟩)]⟩

/-- Ranks of one name are narrowed to high ones. -/
theorem applyPostQuery_highRanksOfName :
    (∀ entry ∈ namedRanks.postQueries, TransCmp entry.2.compare) ∧
      namedRanks.Narrows ranksOfName highRanksOfName ∧
      namedRanks.applyPostQuery
          (namedRanks.applyPostQuery [("a", 1), ("a", 2), ("b", 3), ("a", 3)] ranksOfName)
          highRanksOfName =
        namedRanks.applyPostQuery [("a", 1), ("a", 2), ("b", 3), ("a", 3)] highRanksOfName := by
  have hcompare : ∀ entry ∈ namedRanks.postQueries, TransCmp entry.2.compare := by
    intro entry hentry
    rcases List.mem_pair.mp hentry with rfl | rfl
    · exact inferInstanceAs (TransCmp (compareOn Prod.fst))
    · exact inferInstanceAs (TransCmp (compareOn Prod.snd))
  have hnarrows : namedRanks.Narrows ranksOfName highRanksOfName := by
    refine ⟨fun d hd => sorts_congr ?_, fun d hd _ column hcolumn hfiltered => ?_⟩
    · rcases List.mem_pair.mp hd with rfl | rfl <;> rfl
    · rcases List.mem_pair.mp hd with rfl | rfl
      · exact ⟨column, hcolumn, hfiltered, rfl⟩
      · -- the wider selection takes all ranks
        obtain rfl := Option.some.inj hcolumn
        cases hfiltered
  exact ⟨hcompare, hnarrows,
    (applyPostQuery_narrowing namedRanks hcompare _).1 _ _ hnarrows⟩

end FilterConfig

end DataGrid
