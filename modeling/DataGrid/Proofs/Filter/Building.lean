import DataGrid.Proofs.Filter.Config
import DataGrid.Proofs.Steps

/-!
# Building filters

A filter is made by steps that put columns at the end of a draft, some of them with a post query,
and is checked when all steps are done. The check is exact: it passes the drafts whose columns have
different names and good paths, it names the first column at fault in every other one, and what it
passes is found again by name in the filter that is built.

## Main definitions

* `IsSegment`, `IsPath`: the grammar of paths
* `FilterDraft.Step`, `FilterDraft.ofSteps`: the steps that drafts are made by

## Main results

* `isFieldPath_iff_isPath`: the test of paths decides the grammar
* `FilterDraft.descriptors_ofSteps`, `FilterDraft.postQueries_ofSteps`: what steps come to
* `FilterDraft.sublist_ofSteps`: post queries are named like columns, in the same order
* `FilterDraft.filter_build_exact`: which drafts are built, why others are refused, and what is
  found in the filter
-/

namespace DataGrid

/-! ## Paths -/

/-- **Characters of a segment.** ASCII letters and digits, and the underscore. -/
def IsSegmentChar (c : Char) : Prop :=
  ('a' ≤ c ∧ c ≤ 'z') ∨ ('A' ≤ c ∧ c ≤ 'Z') ∨ ('0' ≤ c ∧ c ≤ '9') ∨ c = '_'

/-- **Segment.** One or more characters of segments. -/
structure IsSegment (chars : List Char) : Prop where
  ne_nil : chars ≠ []
  isSegmentChar : ∀ c ∈ chars, IsSegmentChar c

/-- **Path.** A segment, or a segment and a path with a point between them. -/
inductive IsPath : List Char → Prop
  | segment {chars : List Char} (h : IsSegment chars) : IsPath chars
  | dotted {chars rest : List Char} (h : IsSegment chars) (hrest : IsPath rest) :
      IsPath (chars ++ '.' :: rest)

theorem isPathChar_iff (c : Char) : isPathChar c ↔ IsSegmentChar c := by
  have hranges : isPathChar c = (((decide ('A' ≤ c ∧ c ≤ 'Z') ||
      decide ('a' ≤ c) && decide (c ≤ 'z')) || decide ('0' ≤ c) && decide (c ≤ '9')) ||
      c == '_') := rfl
  rw [hranges, IsSegmentChar]
  simp only [Bool.or_eq_true, Bool.and_eq_true, decide_eq_true_eq, beq_iff_eq]
  tauto

theorem IsSegment.point_notMem {chars : List Char} (h : IsSegment chars) : '.' ∉ chars :=
  fun hpoint => absurd ((isPathChar_iff _).mpr (h.isSegmentChar _ hpoint)) (by decide)

theorem splitOnP_of_point_notMem {chars : List Char} (h : '.' ∉ chars) :
    chars.splitOnP (· == '.') = [chars] :=
  List.splitOnP_eq_singleton fun _ hc => beq_false_of_ne fun heq => h (heq ▸ hc)

/-- A text is a path just where its parts between points are segments. -/
theorem isPath_iff_splitOnP {chars : List Char} :
    IsPath chars ↔ ∀ segment ∈ chars.splitOnP (· == '.'), IsSegment segment := by
  constructor
  · intro h
    induction h with
    | segment h =>
      rw [splitOnP_of_point_notMem h.point_notMem]
      simpa using h
    | dotted h _ ih =>
      rw [List.splitOnP_append_cons _ _ (by decide), splitOnP_of_point_notMem h.point_notMem]
      exact List.forall_mem_cons.mpr ⟨h, ih⟩
  · -- Induction on the length of the text; what stands behind the first point is shorter.
    intro h
    induction hlength : chars.length using Nat.strong_induction_on generalizing chars with
    | _ length ih =>
      subst hlength
      by_cases hpoint : '.' ∈ chars
      · obtain ⟨first, rest, rfl, hfirst⟩ := List.eq_append_cons_of_mem hpoint
        rw [List.splitOnP_append_cons _ _ (by decide), splitOnP_of_point_notMem hfirst] at h
        obtain ⟨hsegment, hrest⟩ := List.forall_mem_cons.mp h
        have hshorter : rest.length < (first ++ '.' :: rest).length := by
          simp only [List.length_append, List.length_cons]
          omega
        exact .dotted hsegment (ih _ hshorter hrest rfl)
      · rw [splitOnP_of_point_notMem hpoint] at h
        exact .segment (h chars (List.mem_singleton_self chars))

/-- **Path test.** It decides the grammar of paths. -/
theorem isFieldPath_iff_isPath {path : String} : isFieldPath path ↔ IsPath path.toList := by
  have hsegment : ∀ segment : List Char,
      (!segment.isEmpty && segment.all isPathChar) = true ↔ IsSegment segment := by
    intro segment
    rw [Bool.and_eq_true, Bool.not_eq_true', List.isEmpty_eq_false_iff, List.all_eq_true]
    simp only [isPathChar_iff]
    exact ⟨fun h => ⟨h.1, h.2⟩, fun h => ⟨h.ne_nil, h.isSegmentChar⟩⟩
  rw [isPath_iff_splitOnP, isFieldPath, List.all_eq_true]
  simp only [hsegment]

namespace FilterDraft

variable {ε : Type}

/-! ## Steps -/

/-- **Step.** One call that adds to a draft. -/
inductive Step (ε : Type) where
  | column (d : FilterDescriptor)
  | postQueryColumn (d : FilterDescriptor) (q : PostQuery ε)
  | columnsFrom (ds : List FilterDescriptor)

/-- The columns that a step adds. -/
def Step.descriptors : Step ε → List FilterDescriptor
  | column d => [d]
  | postQueryColumn d _ => [d]
  | columnsFrom ds => ds

/-- The post queries that a step adds, by the names of their columns. -/
def Step.postQueries : Step ε → List (String × PostQuery ε)
  | postQueryColumn d q => [(d.name, q)]
  | column _ | columnsFrom _ => []

/-- The draft after a step. -/
def after (draft : FilterDraft ε) : Step ε → FilterDraft ε
  | .column d => draft.column d
  | .postQueryColumn d q => draft.postQueryColumn d q
  | .columnsFrom ds => draft.columnsFrom ds

/-- The draft that steps make, the first one first. -/
def ofSteps (steps : List (Step ε)) : FilterDraft ε := steps.foldl after {}

/-! ## What steps come to -/

theorem descriptors_after (draft : FilterDraft ε) (step : Step ε) :
    (draft.after step).descriptors = draft.descriptors ++ step.descriptors := by
  cases step <;> rfl

theorem postQueries_after (draft : FilterDraft ε) (step : Step ε) :
    (draft.after step).postQueries = draft.postQueries ++ step.postQueries := by
  cases step with
  | postQueryColumn d q => rfl
  | column | columnsFrom => exact (List.append_nil _).symm

theorem ofSteps_concat (steps : List (Step ε)) (step : Step ε) :
    ofSteps (steps ++ [step]) = (ofSteps steps).after step := List.foldl_concat ..

/-- The columns are those that the steps added, in order. -/
theorem descriptors_ofSteps (steps : List (Step ε)) :
    (ofSteps steps).descriptors = steps.flatMap Step.descriptors :=
  foldl_eq_append_flatMap descriptors_after {} steps

/-- The post queries are those that the steps added, in order. -/
theorem postQueries_ofSteps (steps : List (Step ε)) :
    (ofSteps steps).postQueries = steps.flatMap Step.postQueries :=
  foldl_eq_append_flatMap postQueries_after {} steps

/-- A step adds a post query only with its column. -/
theorem Step.sublist (step : Step ε) :
    (step.postQueries.map Prod.fst).Sublist (step.descriptors.map (·.name)) := by
  cases step with
  | postQueryColumn d q => exact .refl _
  | column | columnsFrom => exact List.nil_sublist _

/-- Post queries are named like columns, in the same order. -/
theorem sublist_ofSteps (steps : List (Step ε)) :
    ((ofSteps steps).postQueries.map Prod.fst).Sublist
      ((ofSteps steps).descriptors.map (·.name)) := by
  induction steps using List.reverseRecOn with
  | nil => exact .slnil
  | append_singleton steps step ih =>
    rw [ofSteps_concat, postQueries_after, descriptors_after, List.map_append, List.map_append]
    exact ih.append step.sublist

theorem mem_postQueries_ofSteps_iff {steps : List (Step ε)} {name : String} {q : PostQuery ε} :
    (name, q) ∈ (ofSteps steps).postQueries ↔
      ∃ d, Step.postQueryColumn d q ∈ steps ∧ d.name = name := by
  rw [postQueries_ofSteps, List.mem_flatMap]
  constructor
  · rintro ⟨step, hstep, hmem⟩
    cases step with
    | postQueryColumn d _ =>
      cases List.mem_singleton.mp hmem
      exact ⟨d, hstep, rfl⟩
    | column | columnsFrom => cases hmem
  · rintro ⟨d, hstep, rfl⟩
    exact ⟨_, hstep, List.mem_singleton_self _⟩

/-! ## The check of what steps made -/

theorem descriptorFault?_eq_none_iff {d : FilterDescriptor} :
    descriptorFault? d = none ↔ IsPath d.fieldPath.toList := by
  rw [descriptorFault?, ← isFieldPath_iff_isPath]
  split <;> simp [*]

theorem descriptorFault?_eq_some_iff {d : FilterDescriptor} {e : FilterError} :
    descriptorFault? d = some e ↔
      ¬ IsPath d.fieldPath.toList ∧ e = .invalidFieldPath d.fieldPath d.name := by
  rw [descriptorFault?, ← isFieldPath_iff_isPath]
  split <;> simp [*, eq_comm]

theorem build_ofSteps_eq_ok_iff {steps : List (Step ε)} {config : FilterConfig ε} :
    (ofSteps steps).build = .ok config ↔
      (((steps.flatMap Step.descriptors).map (·.name)).Nodup ∧
        ∀ d ∈ steps.flatMap Step.descriptors, IsPath d.fieldPath.toList) ∧
      ⟨steps.flatMap Step.descriptors, steps.flatMap Step.postQueries⟩ = config := by
  simp only [build_eq_ok_iff, descriptors_ofSteps, postQueries_ofSteps, isFieldPath_iff_isPath]

/-- **Refusal.** The error is that of a column behind columns of different names and good paths. It
is for the repeated name if that is one of theirs, and else for a bad path. -/
theorem build_ofSteps_eq_error_iff {steps : List (Step ε)} {e : FilterError} :
    (ofSteps steps).build = .error e ↔
      ∃ before d after, steps.flatMap Step.descriptors = before ++ d :: after ∧
        ((before.map (·.name)).Nodup ∧ ∀ b ∈ before, IsPath b.fieldPath.toList) ∧
          ((d.name ∈ before.map (·.name) ∧ e = .duplicateFilter d.name) ∨
            (d.name ∉ before.map (·.name) ∧ ¬ IsPath d.fieldPath.toList ∧
              e = .invalidFieldPath d.fieldPath d.name)) := by
  rw [build_eq_error_iff, check_eq_checkNamed, checkNamed_nil_eq_error_iff, descriptors_ofSteps]
  simp only [descriptorFault?_eq_none_iff, descriptorFault?_eq_some_iff]

end FilterDraft

namespace FilterConfig

open FilterDraft

variable {ε : Type}

/-- **Kept steps.** The filter has the columns that steps added, in order. A name finds the column
of that name, and a post query just where it was added with a column of that name. -/
structure Keeps (config : FilterConfig ε) (steps : List (Step ε)) : Prop where
  descriptors : config.descriptors = steps.flatMap Step.descriptors
  descriptor? : ∀ name d, config.descriptor? name = some d ↔
    d ∈ steps.flatMap Step.descriptors ∧ d.name = name
  hasPostQuery : ∀ name, config.hasPostQuery name ↔
    ∃ d q, Step.postQueryColumn d q ∈ steps ∧ d.name = name
  postQuery? : ∀ name q, config.postQuery? name = some q ↔
    ∃ d, Step.postQueryColumn d q ∈ steps ∧ d.name = name

/-- A filter that is built keeps all that was added. -/
theorem keeps_of_build {config : FilterConfig ε} {steps : List (Step ε)}
    (h : (ofSteps steps).build = .ok config) : config.Keeps steps := by
  obtain ⟨⟨hnodup, -⟩, rfl⟩ := build_eq_ok_iff.mp h
  -- post queries have different names too, so that each one is found by its own
  have hqueries : ((ofSteps steps).postQueries.map Prod.fst).Nodup :=
    hnodup.sublist (sublist_ofSteps steps)
  have hfound : ∀ name q, (ofSteps steps).postQueries.lookup name = some q ↔
      ∃ d, Step.postQueryColumn d q ∈ steps ∧ d.name = name := by
    intro name q
    rw [← mem_postQueries_ofSteps_iff]
    exact ⟨Dictionary.mem_of_lookup, Dictionary.lookup_of_nodup hqueries⟩
  refine ⟨descriptors_ofSteps steps, ?_, ?_, hfound⟩
  · intro name d
    rw [← descriptors_ofSteps]
    exact find?_name_eq_some_iff hnodup
  · intro name
    rw [hasPostQuery, Option.isSome_iff_exists, exists_comm]
    exact exists_congr (hfound name)

end FilterConfig

namespace FilterDraft

/-- **Exact building.** Whatever steps made a draft, it is built just where its columns have
different names and their paths are of the grammar. Else it is refused for the first column that
has the name of one before or a bad path, and for the name if it has both. A filter that is built
keeps the columns in order, and each of them and its post query under its own name. -/
theorem filter_build_exact {ε : Type} (steps : List (Step ε)) :
    ((∃ config, (ofSteps steps).build = .ok config) ↔
      ((steps.flatMap Step.descriptors).map (·.name)).Nodup ∧
        ∀ d ∈ steps.flatMap Step.descriptors, IsPath d.fieldPath.toList) ∧
    (∀ e, (ofSteps steps).build = .error e ↔
      ∃ before d after, steps.flatMap Step.descriptors = before ++ d :: after ∧
        ((before.map (·.name)).Nodup ∧ ∀ b ∈ before, IsPath b.fieldPath.toList) ∧
          ((d.name ∈ before.map (·.name) ∧ e = .duplicateFilter d.name) ∨
            (d.name ∉ before.map (·.name) ∧ ¬ IsPath d.fieldPath.toList ∧
              e = .invalidFieldPath d.fieldPath d.name))) ∧
    ∀ config, (ofSteps steps).build = .ok config → config.Keeps steps := by
  refine ⟨?_, fun e => build_ofSteps_eq_error_iff, fun config => FilterConfig.keeps_of_build⟩
  simp only [build_ofSteps_eq_ok_iff, exists_and_left, exists_eq', and_true]

/-- A column, one with a post query, and one from a list. -/
def orderSteps : List (Step Int) :=
  [.column (.new "name" "name" "order.name" (.textField "")),
    .postQueryColumn (.new "total" "lines.price_1" "order.total" (.textField ""))
      ⟨fun _ _ => true, compare⟩,
    .columnsFrom [.new "closed" "closed" "order.closed" (.checkbox false)]]

/-- These steps make a filter with one post query. With one more column whose name is repeated
and whose path is bad, they are refused for the name. -/
theorem build_orderSteps :
    (∃ config, (ofSteps orderSteps).build = .ok config ∧ config.hasPostQuery "total" ∧
      ¬ config.hasPostQuery "name") ∧
    (ofSteps (orderSteps ++ [.column (.new "name" "a..b" "order.name" .none)])).build =
      .error (.duplicateFilter "name") := by
  have hpaths : ∀ d ∈ orderSteps.flatMap Step.descriptors, IsPath d.fieldPath.toList := by
    simp only [← isFieldPath_iff_isPath]
    decide +kernel
  have hnodup : ((orderSteps.flatMap Step.descriptors).map (·.name)).Nodup := by decide
  constructor
  · obtain ⟨config, hbuild⟩ := (filter_build_exact orderSteps).1.mpr ⟨hnodup, hpaths⟩
    have hkeeps := (filter_build_exact orderSteps).2.2 config hbuild
    refine ⟨config, hbuild, (hkeeps.hasPostQuery "total").mpr ?_, ?_⟩
    · exact ⟨_, _, .tail _ (.head _), rfl⟩
    · rw [hkeeps.hasPostQuery]
      rintro ⟨d, q, hstep, hname⟩
      -- the one step with a post query adds a column of another name
      simp only [orderSteps, List.mem_cons, reduceCtorEq, List.not_mem_nil, or_false, false_or,
        Step.postQueryColumn.injEq] at hstep
      rw [hstep.1] at hname
      exact absurd hname (by decide)
  · refine ((filter_build_exact _).2.1 _).mpr ⟨orderSteps.flatMap Step.descriptors,
      .new "name" "a..b" "order.name" .none, [], rfl, ⟨hnodup, hpaths⟩, .inl ⟨by decide, rfl⟩⟩

end FilterDraft

end DataGrid
