import DataGrid.Proofs.Calendar.Bound
import DataGrid.Entity.Basic

/-!
# The next milestone

The next milestone of an entry is planned, and it has not been passed. Among the planned milestones
that have not been passed it is the earliest one, where a milestone without a date is later than all
those with one, and of several such milestones it is the first in the plan. So its date does not
depend on the order of the plan, and passed milestones do not count.

## Main definitions

* `PlannedMilestone.Earlier`: the order of milestones in time
* `PlannedMilestone.IsFirst`: the first of several milestones
* `PlannedMilestone.IsEarliestOpen`: the first of those that have not been passed, by their dates
* `PortfolioEntry.IsNext`: the next milestone of an entry

## Main results

* `PlannedMilestone.first?_eq_some_iff`, `PortfolioEntry.nextMilestone?_eq_some_iff`: these
  milestones are the ones that are found
* `PortfolioEntry.nextMilestone?_isEarliestOpen`: what is found in a plan, and in plans made of it
-/

namespace DataGrid

open Calendar

namespace PlannedMilestone

variable {a b m : PlannedMilestone} {l : List PlannedMilestone}

/-- **Earlier milestones.** A milestone with a date is earlier than those with a later date, and
earlier than those without a date. -/
def Earlier (a b : PlannedMilestone) : Prop :=
  ∃ d ∈ a.plannedDate, ∀ d' ∈ b.plannedDate, d.Before d'

theorem isBefore_iff : a.isBefore b ↔ a.Earlier b := by
  cases ha : a.plannedDate <;> cases hb : b.plannedDate <;>
    simp [isBefore, Earlier, ha, hb, Date.compare_eq_lt_iff]

theorem Earlier.asymm (h : a.Earlier b) : ¬ b.Earlier a := by
  obtain ⟨d, hd, hbefore⟩ := h
  rintro ⟨d', hd', hbefore'⟩
  exact (hbefore d' hd').asymm (hbefore' d hd)

/-- Of an earlier and a later milestone, one is apart from any third milestone. -/
theorem Earlier.cotrans (h : a.Earlier b) (m : PlannedMilestone) : a.Earlier m ∨ m.Earlier b := by
  obtain ⟨d, hd, hbefore⟩ := h
  cases hm : m.plannedDate with
  | none => exact .inl ⟨d, hd, by simp [hm]⟩
  | some k =>
    cases hb : b.plannedDate with
    | none => exact .inr ⟨k, hm, by simp [hb]⟩
    | some d' =>
      refine (Date.Before.cotrans (hbefore d' hb) k).imp (fun hk => ⟨d, hd, ?_⟩)
        fun hk => ⟨k, hm, ?_⟩
      · simpa [hm] using hk
      · simpa [hb] using hk

/-- Of two milestones with different dates one is earlier. -/
theorem earlier_of_not_earlier (h : ¬ b.Earlier a) (hne : a.plannedDate ≠ b.plannedDate) :
    a.Earlier b := by
  cases ha : a.plannedDate with
  | none =>
    -- the other one has a date, and is earlier by that
    obtain ⟨d', hb⟩ := Option.ne_none_iff_exists'.mp (ha ▸ hne.symm)
    exact absurd ⟨d', hb, by simp [ha]⟩ h
  | some d =>
    refine ⟨d, ha, fun d' hb => Date.before_of_not_before (fun hbefore => h ?_) ?_⟩
    · exact ⟨d', hb, by simpa [ha] using hbefore⟩
    · rintro rfl
      exact hne (ha.trans hb.symm)

/-- A milestone is not earlier than another one where its date is not, and where it has none or the
other one has a date. -/
theorem not_earlier_iff :
    ¬ a.Earlier b ↔ (∀ d ∈ b.plannedDate, ∀ d' ∈ a.plannedDate, ¬ d'.Before d) ∧
      (a.plannedDate.isSome → b.plannedDate.isSome) := by
  cases ha : a.plannedDate <;> cases hb : b.plannedDate <;> simp [Earlier, ha, hb]

/-- **The first of several milestones.** It is earlier than those in front of it, and those behind
it are not earlier. -/
def IsFirst (l : List PlannedMilestone) (m : PlannedMilestone) : Prop :=
  ∃ before after, l = before ++ m :: after ∧ (∀ n ∈ before, m.Earlier n) ∧
    ∀ n ∈ after, ¬ n.Earlier m

theorem IsFirst.mem (h : IsFirst l m) : m ∈ l := by
  obtain ⟨before, after, rfl, -⟩ := h
  exact List.mem_append_right before List.mem_cons_self

/-- No milestone is earlier than the first one. -/
theorem IsFirst.not_earlier (h : IsFirst l m) : ∀ n ∈ l, ¬ n.Earlier m := by
  obtain ⟨before, after, rfl, hbefore, hafter⟩ := h
  intro n hn
  rcases List.mem_append.mp hn with hn | hn
  · exact (hbefore n hn).asymm
  · rcases List.mem_cons.mp hn with rfl | hn
    · exact fun hself => hself.asymm hself
    · exact hafter n hn

theorem isFirst_cons_iff :
    IsFirst (a :: l) m ↔ (m = a ∧ ∀ n ∈ l, ¬ n.Earlier a) ∨ (IsFirst l m ∧ m.Earlier a) := by
  constructor
  · rintro ⟨_ | ⟨n, before⟩, after, heq, hbefore, hafter⟩
    · cases heq
      exact .inl ⟨rfl, hafter⟩
    · cases heq
      obtain ⟨hfront, hbefore⟩ := List.forall_mem_cons.mp hbefore
      exact .inr ⟨⟨before, after, rfl, hbefore, hafter⟩, hfront⟩
  · rintro (⟨rfl, hafter⟩ | ⟨⟨before, after, rfl, hbefore, hafter⟩, hfront⟩)
    · exact ⟨[], l, rfl, List.forall_mem_nil _, hafter⟩
    · exact ⟨a :: before, after, rfl, List.forall_mem_cons.mpr ⟨hfront, hbefore⟩, hafter⟩

theorem first?_eq_none_iff : first? l = none ↔ l = [] := by
  cases l with
  | nil => exact iff_of_true rfl rfl
  | cons a l =>
    refine iff_of_false ?_ (List.cons_ne_nil a l)
    rw [first?]
    split <;> simp

/-- **Finding the first milestone.** -/
theorem first?_eq_some_iff : first? l = some m ↔ IsFirst l m := by
  -- Induction on the milestones. The one in front is the first one unless the first of the others
  -- is earlier.
  induction l generalizing m with
  | nil =>
    refine iff_of_false (fun h => nomatch h) ?_
    rintro ⟨before, after, heq, -⟩
    exact absurd heq.symm (List.append_ne_nil_of_right_ne_nil before (List.cons_ne_nil m after))
  | cons a l ih =>
    rw [isFirst_cons_iff, first?]
    cases hrest : first? l with
    | none =>
      obtain rfl := first?_eq_none_iff.mp hrest
      simp [← ih, hrest, eq_comm]
    | some n =>
      have hfirst : IsFirst l n := ih.mp hrest
      have hn : ∀ m, IsFirst l m ↔ n = m := fun m => by rw [← ih, hrest, Option.some.injEq]
      rw [hn, Option.some.injEq]
      split
      · rename_i hbefore
        rw [isBefore_iff] at hbefore
        constructor
        · rintro rfl
          exact .inr ⟨rfl, hbefore⟩
        · rintro (⟨rfl, hafter⟩ | ⟨rfl, -⟩)
          · exact absurd hbefore (hafter n hfirst.mem)
          · rfl
      · rename_i hbefore
        rw [isBefore_iff] at hbefore
        constructor
        · rintro rfl
          exact .inl ⟨rfl, fun k hk hearlier =>
            (hearlier.cotrans n).elim (hfirst.not_earlier k hk) hbefore⟩
        · rintro (⟨rfl, -⟩ | ⟨rfl, hfront⟩)
          · rfl
          · exact absurd hfront hbefore

/-- **The earliest open milestone of a plan**, with what stands in front of it and behind it. It has
not been passed. Of those that have not been passed none has an earlier date, none has a date if it
has none itself, and none in front of it has the same date, or none as it has. -/
structure IsEarliestOpen (before : List PlannedMilestone) (m : PlannedMilestone)
    (after : List PlannedMilestone) : Prop where
  notPassed : m.passed = false
  noneEarlier : ∀ n ∈ before ++ after, n.passed = false →
    ∀ d ∈ m.plannedDate, ∀ d' ∈ n.plannedDate, ¬ d'.Before d
  dated : ∀ n ∈ before ++ after, n.passed = false → n.plannedDate.isSome → m.plannedDate.isSome
  firstOfDate : ∀ n ∈ before, n.passed = false → n.plannedDate ≠ m.plannedDate

end PlannedMilestone

namespace PortfolioEntry

variable {e e' : PortfolioEntry} {m m' : PlannedMilestone}

/-- **The next milestone.** It has not been passed. It is earlier than those in front of it that
have not been passed, and those behind it that have not been passed are not earlier. -/
def IsNext (e : PortfolioEntry) (m : PlannedMilestone) : Prop :=
  ∃ before after, e.plannedMilestones = before ++ m :: after ∧ m.passed = false ∧
    (∀ n ∈ before, n.passed = false → m.Earlier n) ∧
    ∀ n ∈ after, n.passed = false → ¬ n.Earlier m

/-- Passed milestones do not count. -/
theorem isNext_iff_isFirst :
    e.IsNext m ↔ PlannedMilestone.IsFirst (e.plannedMilestones.filter (!·.passed)) m := by
  constructor
  · rintro ⟨before, after, heq, hpassed, hbefore, hafter⟩
    refine ⟨before.filter (!·.passed), after.filter (!·.passed), ?_, ?_, ?_⟩
    · rw [heq, List.filter_append, List.filter_cons_of_pos (by simp [hpassed])]
    · simpa using hbefore
    · simpa using hafter
  · rintro ⟨before, after, heq, hbefore, hafter⟩
    obtain ⟨front, rest, hplan, rfl, hrest⟩ := List.filter_eq_append_iff.mp heq
    obtain ⟨skipped, behind, rfl, hskipped, hpassed, rfl⟩ := List.filter_eq_cons_iff.mp hrest
    refine ⟨front ++ skipped, behind, by rw [hplan, List.append_assoc], by simpa using hpassed,
      ?_, by simpa using hafter⟩
    rw [List.forall_mem_append]
    refine ⟨by simpa using hbefore, fun n hn hopen => absurd (hskipped n hn) ?_⟩
    simp [hopen]

/-- **Finding the next milestone.** -/
theorem nextMilestone?_eq_some_iff : e.nextMilestone? = some m ↔ e.IsNext m := by
  rw [nextMilestone?, PlannedMilestone.first?_eq_some_iff, isNext_iff_isFirst]

/-! ## Plans -/

theorem nextMilestone?_eq_none_iff :
    e.nextMilestone? = none ↔ ∀ m ∈ e.plannedMilestones, m.passed := by
  rw [nextMilestone?, PlannedMilestone.first?_eq_none_iff, List.filter_eq_nil_iff]
  simp

theorem isNext_iff_isEarliestOpen :
    e.IsNext m ↔ ∃ before after, e.plannedMilestones = before ++ m :: after ∧
      PlannedMilestone.IsEarliestOpen before m after := by
  refine exists₂_congr fun before after => and_congr_right fun _ => ?_
  constructor
  · rintro ⟨hpassed, hbefore, hafter⟩
    have hopen : ∀ n ∈ before ++ after, n.passed = false → ¬ n.Earlier m :=
      List.forall_mem_append.mpr ⟨fun n hn hn' => (hbefore n hn hn').asymm, hafter⟩
    refine ⟨hpassed, fun n hn hn' => ?_, fun n hn hn' => ?_, fun n hn hn' hsame => ?_⟩
    · exact (PlannedMilestone.not_earlier_iff.mp (hopen n hn hn')).1
    · exact (PlannedMilestone.not_earlier_iff.mp (hopen n hn hn')).2
    · -- the milestone would be earlier than one with the same date
      obtain ⟨d, hd, hearlier⟩ := hbefore n hn hn'
      have hself := hearlier d (hsame.trans hd)
      exact hself.asymm hself
  · rintro ⟨hpassed, hearlier, hdated, hfirst⟩
    have hopen : ∀ n ∈ before ++ after, n.passed = false → ¬ n.Earlier m := fun n hn hn' =>
      PlannedMilestone.not_earlier_iff.mpr ⟨hearlier n hn hn', hdated n hn hn'⟩
    obtain ⟨hfront, hbehind⟩ := List.forall_mem_append.mp hopen
    refine ⟨hpassed, fun n hn hn' => ?_, hbehind⟩
    exact PlannedMilestone.earlier_of_not_earlier (hfront n hn hn') (hfirst n hn hn').symm

namespace IsNext

theorem mem (h : e.IsNext m) : m ∈ e.plannedMilestones := by
  obtain ⟨before, after, hplan, -⟩ := h
  exact hplan ▸ List.mem_append_right before List.mem_cons_self

theorem notPassed (h : e.IsNext m) : m.passed = false := by
  obtain ⟨_, _, -, hpassed, -⟩ := h
  exact hpassed

theorem not_earlier (h : e.IsNext m) {n : PlannedMilestone} (hn : n ∈ e.plannedMilestones)
    (hpassed : n.passed = false) : ¬ n.Earlier m :=
  (isNext_iff_isFirst.mp h).not_earlier n (List.mem_filter.mpr ⟨hn, by simp [hpassed]⟩)

/-- Next milestones of two orders of one plan have one date. -/
theorem plannedDate_eq (h : e.IsNext m) (h' : e'.IsNext m')
    (hplan : e'.plannedMilestones.Perm e.plannedMilestones) :
    m'.plannedDate = m.plannedDate := by
  refine Decidable.byContradiction fun hne => ?_
  have hlater := h.not_earlier (hplan.subset h'.mem) h'.notPassed
  have hearlier := PlannedMilestone.earlier_of_not_earlier hlater (Ne.symm hne)
  exact h'.not_earlier (hplan.symm.subset h.mem) h.notPassed hearlier

end IsNext

/-- The entry with another plan. -/
def withPlan (e : PortfolioEntry) (plan : List PlannedMilestone) : PortfolioEntry :=
  { e with plannedMilestones := plan }

/-- **The next milestone is the earliest open one.** An entry has no next milestone just where all
milestones have been passed, and otherwise it is the earliest open one. Other orders of the plan
give the same date, and passed milestones can be put anywhere into the plan, or taken out of it. -/
theorem nextMilestone?_isEarliestOpen (e : PortfolioEntry) :
    (e.nextMilestone? = none ↔ ∀ m ∈ e.plannedMilestones, m.passed) ∧
      (∀ m, e.nextMilestone? = some m ↔
        ∃ before after, e.plannedMilestones = before ++ m :: after ∧
          PlannedMilestone.IsEarliestOpen before m after) ∧
      (∀ plan, plan.Perm e.plannedMilestones →
        (e.withPlan plan).nextMilestone?.map (·.plannedDate) =
          e.nextMilestone?.map (·.plannedDate)) ∧
      ∀ before passed after, (∀ m ∈ passed, m.passed) →
        (e.withPlan (before ++ passed ++ after)).nextMilestone? =
          (e.withPlan (before ++ after)).nextMilestone? := by
  refine ⟨nextMilestone?_eq_none_iff, fun m => ?_, fun plan hplan => ?_,
    fun before passed after hpassed => ?_⟩
  · rw [nextMilestone?_eq_some_iff, isNext_iff_isEarliestOpen]
  · cases hnext : e.nextMilestone? with
    | none =>
      -- all milestones have been passed, in whatever order
      rw [nextMilestone?_eq_none_iff] at hnext
      have hall : (e.withPlan plan).nextMilestone? = none :=
        nextMilestone?_eq_none_iff.mpr fun m hm => hnext m (hplan.subset hm)
      rw [hall]
    | some m =>
      have hopen : (e.withPlan plan).nextMilestone? ≠ none := by
        rw [Ne, nextMilestone?_eq_none_iff]
        intro hall
        have hm := nextMilestone?_eq_some_iff.mp hnext
        have hpassed := hall m (hplan.symm.subset hm.mem)
        rw [hm.notPassed] at hpassed
        exact Bool.false_ne_true hpassed
      obtain ⟨m', hnext'⟩ := Option.ne_none_iff_exists'.mp hopen
      have hdate := (nextMilestone?_eq_some_iff.mp hnext).plannedDate_eq
        (nextMilestone?_eq_some_iff.mp hnext') hplan
      rw [hnext', Option.map_some, Option.map_some, hdate]
  · have hnone : passed.filter (!·.passed) = [] :=
      List.filter_eq_nil_iff.mpr fun m hm => by simp [hpassed m hm]
    rw [nextMilestone?, nextMilestone?, withPlan, withPlan, List.filter_append, List.filter_append,
      List.filter_append, hnone, List.append_nil]

/-- A step of a release. -/
def releaseStep (id : Nat) (planned : Option Date) (passed : Bool) : PlannedMilestone :=
  ⟨⟨.ofNat id, "R", "Release"⟩, planned, passed⟩

def firstOfMarch : Date := ⟨2015, 3, 1, by decide⟩

/-- Steps of a release: one that has been passed, one without a date, a late one, and two on the
first of March. -/
def releaseSteps : List PlannedMilestone :=
  [releaseStep 1 (some ⟨2015, 1, 1, by decide⟩) true, releaseStep 2 none false,
    releaseStep 3 (some ⟨2015, 6, 1, by decide⟩) false, releaseStep 4 (some firstOfMarch) false,
    releaseStep 5 (some firstOfMarch) false]

/-- An entry that is released in these steps. -/
def released : PortfolioEntry where
  id := .ofNat 1
  governanceId := none
  creationDate := none
  name := "Core"
  isPublic := false
  archived := false
  type := none
  manager := none
  sponsoringUnit := none
  deliveryUnits := []
  portfolios := []
  stakeholders := []
  lifeCycle := none
  lastMilestone := none
  plannedMilestones := releaseSteps
  lastReport := none
  startDate := none
  endDate := none

/-- The first of the two steps in March comes next, also without the step that has been passed. In
the other order of the steps it is the other one, on the same day. -/
theorem nextMilestone?_released :
    released.nextMilestone? = some (releaseStep 4 (some firstOfMarch) false) ∧
      (released.withPlan releaseSteps.reverse).nextMilestone? =
        some (releaseStep 5 (some firstOfMarch) false) ∧
      (released.withPlan releaseSteps.reverse).nextMilestone?.map (·.plannedDate) =
        released.nextMilestone?.map (·.plannedDate) ∧
      (released.withPlan releaseSteps).nextMilestone? =
        (released.withPlan releaseSteps.tail).nextMilestone? := by
  obtain ⟨-, hfound, hperm, hpassed⟩ := nextMilestone?_isEarliestOpen released
  refine ⟨(hfound _).mpr ⟨releaseSteps.take 3, releaseSteps.drop 4, rfl, ?_⟩, by decide,
    hperm _ (List.reverse_perm releaseSteps), ?_⟩
  · refine ⟨rfl, ?_, ?_, ?_⟩ <;>
      simp [releaseSteps, releaseStep, firstOfMarch, Date.Before]
  · exact hpassed [] [releaseStep 1 (some ⟨2015, 1, 1, by decide⟩) true] releaseSteps.tail (by decide)

end PortfolioEntry

end DataGrid
