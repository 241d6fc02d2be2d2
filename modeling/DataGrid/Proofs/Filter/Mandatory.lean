import DataGrid.Proofs.Filter.Config
import Mathlib.Data.List.Nodup

/-!
# Mandatory columns

The default state displays every mandatory column. A selection that is read is taken as it
stands, so a text may hide a mandatory column like any other one.

## Main results

* `FilterConfig.mandatory_displayed_iff`: when no mandatory column is hidden
* `FilterConfig.read_hides_mandatory`: an accepted text that hides a mandatory column
-/

namespace DataGrid

variable {ε : Type}

namespace FilterConfig

variable {config : FilterConfig ε}

/-- **Mandatory columns.** The default state hides none of them. An accepted selection hides none
just where it displays those of them that it has a state for. No accepted selection hides one
just where the filter has none. -/
theorem mandatory_displayed_iff {draft : FilterDraft ε} (h : draft.build = .ok config) :
    (∀ d ∈ config.descriptors, d.mandatory → d.name ∉ config.defaultState.hiddenColumns) ∧
      (∀ text state, config.read text = .ok state →
        ((∀ d ∈ config.descriptors, d.mandatory → d.name ∉ state.hiddenColumns) ↔
          ∀ d ∈ config.descriptors, d.mandatory → ∀ column,
            state.column? d.name = some column → column.displayed)) ∧
      ((∀ text state, config.read text = .ok state →
          ∀ d ∈ config.descriptors, d.mandatory → d.name ∉ state.hiddenColumns) ↔
        ∀ d ∈ config.descriptors, d.mandatory = false) := by
  obtain ⟨⟨hnodup, -⟩, rfl⟩ := FilterDraft.build_eq_ok_iff.mp h
  refine ⟨fun d hd hmandatory hhidden => ?_, fun text state hread => ?_, ?_⟩
  · -- what the default state hides is the column of a descriptor that is not mandatory
    obtain ⟨other, hother, hname, -, hfree⟩ :=
      (mem_hiddenColumns_defaultState hnodup d.name).mp hhidden
    obtain rfl : other = d := List.inj_on_of_nodup_map hnodup hother hd hname
    rw [hmandatory] at hfree
    cases hfree
  · refine forall₃_congr fun d _ _ => ?_
    rw [FilterState.mem_hiddenColumns (sorted_of_read hread)]
    push Not
    simp only [ne_eq, Bool.not_eq_false]
  · constructor
    · -- a mandatory column would be hidden by the text that hides it and nothing else
      intro hnone d hd
      refine Bool.eq_false_iff.mpr fun hmandatory => ?_
      exact hnone _ _ (read_hidingOnly hd) d hd hmandatory (List.mem_singleton_self d.name)
    · intro hfree text state _ d hd hmandatory
      rw [hfree d hd] at hmandatory
      cases hmandatory

/-- A filter of one mandatory column. -/
def archivedFilter : FilterConfig Unit where
  descriptors := [(FilterDescriptor.new "archived" "archived" "label.archived"
    (.checkbox false)).asMandatory]
  postQueries := []

/-- The default state of the filter displays its column, but not every accepted text does. -/
theorem mandatory_displayed_archived :
    FilterDraft.build ⟨archivedFilter.descriptors, []⟩ = .ok archivedFilter ∧
      archivedFilter.defaultState.hiddenColumns = [] ∧
      ¬ ∀ text state, archivedFilter.read text = .ok state →
        ∀ d ∈ archivedFilter.descriptors, d.mandatory → d.name ∉ state.hiddenColumns := by
  have hbuild : FilterDraft.build ⟨archivedFilter.descriptors, []⟩ = .ok archivedFilter := rfl
  refine ⟨hbuild, by decide, fun hnone => ?_⟩
  have hfree := (mandatory_displayed_iff hbuild).2.2.mp hnone _ List.mem_cons_self
  cases hfree

/-- **A hidden mandatory column.** A text that leaves out whether the column is displayed is
accepted, and hides it. -/
theorem read_hides_mandatory :
    FilterDraft.build ⟨archivedFilter.descriptors, []⟩ = .ok archivedFilter ∧
      archivedFilter.read "\x7b\"columns\":\x7b\"archived\":\x7b\x7d\x7d\x7d" =
          .ok (.hidingOnly "archived") ∧
        (archivedFilter.descriptors.map fun d => (d.name, d.mandatory)) = [("archived", true)] ∧
          (FilterState.hidingOnly "archived").hiddenColumns = ["archived"] := by
  refine ⟨rfl, ?_, by decide, by decide⟩
  -- the text is the written form of a state whose column says nothing
  have htext : "\x7b\"columns\":\x7b\"archived\":\x7b\x7d\x7d\x7d" =
      (Json.object [("columns", .object [("archived", .object [])])]).text := by decide
  refine read_eq_ok_iff.mpr ⟨?_, ?_⟩
  · rw [htext, Json.decode_text _ rfl]
    rfl
  · intro entry hentry
    obtain rfl := List.mem_singleton.mp hentry
    exact ⟨_, List.mem_cons_self, rfl⟩

end FilterConfig

end DataGrid
