import DataGrid.Proofs.Entity.NextMilestone
import DataGrid.Proofs.Entity.Routes
import DataGrid.Proofs.View.MilestoneOrder

/-!
# Filtering by the next milestone

The filter keeps an entry for what its row shows. A range of dates keeps the entries whose rows show
a date within the range, ends included, and a choice of milestones keeps those whose next milestones
are chosen. An end that is not given, or that is no date, is no bound.

## Main definitions

* `SubmitsEnd`: an end of a submitted range

## Main results

* `submitsEnd_iff`, `submitsEnd_encodeDate?`: submitted ends are read, and the written form of an
  end submits it
* `EntryFilter.agreesWithRow`: the filter and the rows agree on the next milestone
-/

namespace DataGrid

open Calendar

/-! ## Ends of ranges -/

section SubmittedEnds

variable {submitted : Json} {name : String} {stop : Option Date}

/-- **An end of a submitted range.** A text that spells a date submits that date. Where there is no
member with the name, or another value, nothing bounds the range. -/
inductive SubmitsEnd (submitted : Json) (name : String) : Option Date → Prop
  | date {s : String} {d : Date} (hmember : submitted.member? name = some (.string s))
      (hspells : SpellsDate s.toList d) : SubmitsEnd submitted name (some d)
  | absent (hmember : submitted.member? name = none) : SubmitsEnd submitted name none
  | malformed {value : Json} (hmember : submitted.member? name = some value)
      (hvalue : ∀ s d, value = .string s → ¬ SpellsDate s.toList d) :
      SubmitsEnd submitted name none

/-- **Reading ends.** Each end of a submitted value is read, and nothing else is. -/
theorem submitsEnd_iff : SubmitsEnd submitted name stop ↔ rangeBound? name submitted = stop := by
  constructor
  · rintro (⟨hmember, hspells⟩ | hmember | ⟨hmember, hvalue⟩)
    · rw [rangeBound?, hmember]
      exact Date.ofBound?_eq_some_iff.mpr hspells
    · rw [rangeBound?, hmember]
    · rw [rangeBound?, hmember]
      split
      · rename_i s heq
        rw [Option.eq_none_iff_forall_ne_some]
        exact fun d hd => hvalue s d (Option.some.inj heq) (Date.ofBound?_eq_some_iff.mp hd)
      · rfl
  · rintro rfl
    rw [rangeBound?]
    split
    · rename_i s hmember
      cases hread : Date.ofBound? s with
      | some d => exact .date hmember (Date.ofBound?_eq_some_iff.mp hread)
      | none =>
        refine .malformed hmember fun s' d heq hspells => ?_
        cases heq
        rw [Date.ofBound?_eq_some_iff.mpr hspells] at hread
        cases hread
    · rename_i hmember
      cases hvalue : submitted.member? name with
      | none => exact .absent hvalue
      | some value =>
        refine .malformed hvalue fun s d heq _ => hmember s ?_
        rw [hvalue, heq]

/-- The written form of an end submits it, whatever the year is. -/
theorem submitsEnd_encodeDate? {d : Option Date}
    (hmember : submitted.member? name = some (Widget.encodeDate? d)) :
    SubmitsEnd submitted name d := by
  cases d with
  | none => exact .malformed hmember fun _ _ heq => nomatch heq
  | some d =>
    refine .date hmember ?_
    rw [Date.text, String.toList_ofList]
    exact spellsDate_chars d

end SubmittedEnds

/-! ## Ids of options -/

theorem mem_map_option_value {id : Int64} {choices : List Choice} :
    idText id ∈ choices.map (·.option.value) ↔ ∃ choice ∈ choices, choice.value = id := by
  simp only [List.mem_map, Choice.option, idText_inj]

/-! ## The tests -/

namespace PortfolioEntry

variable {e : PortfolioEntry}

theorem hasNextMilestoneIn_iff {texts : List String} :
    e.hasNextMilestoneIn (Widget.encodeTexts texts) ↔
      ∃ m, e.IsNext m ∧ idText m.milestone.id ∈ texts := by
  simp only [← nextMilestone?_eq_some_iff, hasNextMilestoneIn]
  cases e.nextMilestone? with
  | none => simp [Widget.encodeTexts]
  | some m => simp [Widget.encodeTexts, List.any_map]

theorem hasNextMilestoneWithin_iff {submitted : Json} :
    e.hasNextMilestoneWithin submitted ↔
      ∃ d, e.nextMilestoneDate? = some d ∧
        d.Within (rangeBound? "from" submitted) (rangeBound? "to" submitted) := by
  rw [hasNextMilestoneWithin, nextMilestoneDate?]
  cases e.nextMilestone?.bind (·.plannedDate) with
  | none => simp
  | some d =>
    cases rangeBound? "from" submitted <;> cases rangeBound? "to" submitted <;>
      simp [Date.Within, Date.atMost_iff]

end PortfolioEntry

namespace EntryFilter

variable {lookup : Lookup} {routes : Routes} {attributes : FilterProvider}
  {settings : FilterSettings} {c : FilterConfig PortfolioEntry}

/-- Without attributes nothing stands against the filter. -/
theorem config_of_noAttributes (lookup : Lookup) (routes : Routes) (settings : FilterSettings) :
    config lookup routes (fun _ => []) settings =
      .ok ⟨(draft lookup routes (fun _ => []) settings).descriptors,
        (draft lookup routes (fun _ => []) settings).postQueries⟩ := by
  refine FilterDraft.build_eq_ok_iff.mpr ⟨FilterDraft.check_nil_eq_ok_iff.mp ?_, rfl⟩
  rw [check_draft]
  decide +kernel

/-- The filter has no other post queries than those for the next milestone. -/
theorem mem_of_postQuery? (hconfig : config lookup routes attributes settings = .ok c)
    {name : String} {query : PostQuery PortfolioEntry} (hquery : c.postQuery? name = some query) :
    (name, query) ∈
      [("nextMilestone", nextMilestoneQuery), ("nextMilestoneDate", nextMilestoneDateQuery)] := by
  have hmem := Dictionary.mem_of_lookup hquery
  rw [postQueries_of_config hconfig] at hmem
  split_ifs at hmem
  · cases hmem
  · exact hmem

/-- **Agreement with rows.** A range of dates keeps the entries whose rows show a date that is not
before the first end and not after the second one, as far as the range has ends. The written form
of a date, whatever its year is, submits that date as an end, and null submits none. A choice of
milestones keeps the entries with a next milestone, the one whose name and date their rows show, if
one of the chosen options stands for it. -/
theorem agreesWithRow (hconfig : config lookup routes attributes settings = .ok c)
    (rowRoutes : Routes) (e : PortfolioEntry) :
    (∀ query submitted start stop, c.postQuery? "nextMilestoneDate" = some query →
      SubmitsEnd submitted "from" start → SubmitsEnd submitted "to" stop →
        (query.test e submitted ↔
          ∃ d, (PortfolioEntryRow.new rowRoutes e).nextMilestoneDate = some d ∧
            d.Within start stop)) ∧
    (∀ submitted name d, submitted.member? name = some (Widget.encodeDate? d) →
      SubmitsEnd submitted name d) ∧
    ∀ query (choices : List Choice), c.postQuery? "nextMilestone" = some query →
      (query.test e (Widget.encodeTexts (choices.map (·.option.value))) ↔
        ∃ m, e.IsNext m ∧
          (PortfolioEntryRow.new rowRoutes e).nextMilestone = some m.milestone.shortName ∧
          (PortfolioEntryRow.new rowRoutes e).nextMilestoneDate = m.plannedDate ∧
          ∃ choice ∈ choices, choice.value = m.milestone.id) := by
  refine ⟨fun query submitted start stop hquery hstart hstop => ?_,
    fun _ _ _ => submitsEnd_encodeDate?, fun query choices hquery => ?_⟩
  · obtain rfl : query = nextMilestoneDateQuery := by
      simpa using mem_of_postQuery? hconfig hquery
    rw [submitsEnd_iff] at hstart hstop
    subst hstart hstop
    exact PortfolioEntry.hasNextMilestoneWithin_iff
  · obtain rfl : query = nextMilestoneQuery := by
      simpa using mem_of_postQuery? hconfig hquery
    refine PortfolioEntry.hasNextMilestoneIn_iff.trans (exists_congr fun m => ?_)
    refine and_congr_right fun hnext => ?_
    have hfound := PortfolioEntry.nextMilestone?_eq_some_iff.mpr hnext
    rw [mem_map_option_value]
    simp [PortfolioEntryRow.new, hfound]

def ides : Date := ⟨-44, 3, 15, by decide⟩

/-- A range from a day on, written as it is submitted. -/
def rangeFrom (start : Date) : Json :=
  .object [("from", Widget.encodeDate? start), ("to", .null)]

/-- A launch on the ides is within a range that begins with them, and not within one that begins
later. It is kept by a choice with its number. -/
theorem agreesWithRow_ides :
    config launchLookup .standard (fun _ => []) {} = .ok launchFilter ∧
      (∃ query, launchFilter.postQuery? "nextMilestoneDate" = some query ∧
        query.test (launchEntry 1 ides) (rangeFrom ides) ∧
        ¬ query.test (launchEntry 1 ides) (rangeFrom march)) ∧
      ∃ query, launchFilter.postQuery? "nextMilestone" = some query ∧
        query.test (launchEntry 1 ides) (Widget.encodeTexts ["1"]) := by
  have hconfig : config launchLookup .standard (fun _ => []) {} = .ok launchFilter :=
    config_of_noAttributes _ _ _
  obtain ⟨hrange, hends, hchoice⟩ := agreesWithRow hconfig .standard (launchEntry 1 ides)
  have hdate (start : Date) := hrange nextMilestoneDateQuery (rangeFrom start) start none rfl
    (hends _ _ _ rfl) (hends _ _ none rfl)
  refine ⟨hconfig, ⟨nextMilestoneDateQuery, rfl, ?_, ?_⟩, ⟨nextMilestoneQuery, rfl, ?_⟩⟩
  · exact (hdate ides).mpr ⟨ides, rfl, by simp [Date.Within, Date.Before]⟩
  · intro hkept
    obtain ⟨d, hshown, hwithin⟩ := (hdate march).mp hkept
    cases hshown
    exact hwithin.1 march rfl (.inl (by decide))
  · exact (hchoice nextMilestoneQuery [⟨launch.id, launch.name⟩] rfl).mpr
      ⟨⟨launch, ides, false⟩, ⟨[], [], rfl, rfl, by simp, by simp⟩, rfl, rfl, _,
        List.mem_singleton_self _, rfl⟩

end EntryFilter

end DataGrid
