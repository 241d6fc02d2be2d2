import DataGrid.Proofs.Json.Spelling

/-!
# Decoding every spelling

A decoder reads a value if it answers the same for all fragments that spell the value. Records read
their members wherever they stand, and an open record keeps the members that it does not declare.

## Main definitions

* `Decoder.Reads`: what every spelling of a value is read as
* `Members.Holds`: the parts of a record spell declared members

## Main results

* `Decoder.text_reads`, `Decoder.choice_reads`, `Decoder.nullable_reads`, `Decoder.listOf_reads`:
  reading simple shapes
* `Members.exists_collect`: the parts of a record, in whatever order its members stand
* `Decoder.record_reads`, `Decoder.openRecord_reads`: reading records
-/

namespace DataGrid.Json

variable {α : Type} {site : Site}

/-- **Reading a value.** Every fragment that spells the value is read as one thing. -/
def Decoder.Reads (decoder : Decoder α) (site : Site) (j : Json) (a : α) : Prop :=
  ∀ f : Fragment, f.Spells j → decoder site f = .ok a

/-! ## Simple shapes -/

namespace Decoder

theorem bool_reads (b : Bool) : Decoder.bool.Reads site (.bool b) b := by
  intro f hf
  cases hf
  rfl

theorem text_reads (s : String) : Decoder.text.Reads site (.string s) s := by
  intro f hf
  obtain ⟨q, rfl, hq⟩ := Fragment.exists_of_spells_string hf
  rw [Decoder.text, hq]
  exact congrArg Except.ok String.ofList_toList

theorem parsed_reads {read : String → Option α} {s : String} {a : α} (h : read s = some a) :
    (Decoder.parsed read).Reads site (.string s) a := by
  intro f hf
  simp only [Decoder.parsed, text_reads s f hf, bind, Except.bind, h]

theorem choice_reads {find : String → Option α} {name : String} {a : α} (h : find name = some a) :
    (Decoder.choice find).Reads site (.string name) a := by
  intro f hf
  obtain ⟨q, rfl, hq⟩ := Fragment.exists_of_spells_string hf
  simp only [Decoder.choice, hq, bind, Except.bind, String.ofList_toList, h]

/-- A text is no place among the names, in a buffer or not. -/
theorem tag_reads {names : List (String × α)} {name : String} {a : α}
    (h : names.lookup name = some a) : (Decoder.tag names).Reads site (.string name) a := by
  intro f hf
  have hparsed : Decoder.parsed (fun name => names.lookup name) site f = .ok a :=
    parsed_reads h f hf
  obtain ⟨q, rfl, -⟩ := Fragment.exists_of_spells_string hf
  exact hparsed

/-- What is written as a text or as null is read back if the texts are. -/
theorem nullable_reads {decoder : Decoder α} {write : α → String}
    (hread : ∀ a, decoder.Reads site (.string (write a)) a) (o : Option α) :
    (Decoder.nullable decoder).Reads site ((o.map fun a => .string (write a)).getD .null) o := by
  intro f hf
  cases o with
  | none =>
    cases hf
    rfl
  | some a =>
    have hvalue := hread a f hf
    obtain ⟨q, rfl, -⟩ := Fragment.exists_of_spells_string hf
    exact congrArg (Except.map some) hvalue

theorem mapM_of_spells {decoder : Decoder α} {encode : α → Json} {as : List α}
    {items : List Fragment} (hread : ∀ a ∈ as, decoder.Reads site (encode a) a)
    (h : List.Forall₂ Fragment.Spells items (as.map encode)) :
    items.mapM (decoder site) = .ok as := by
  induction as generalizing items with
  | nil =>
    cases h
    rfl
  | cons a as ih =>
    obtain ⟨hfirst, hrest⟩ := List.forall_mem_cons.mp hread
    obtain ⟨item, others, hitem, hothers, rfl⟩ := List.forall₂_cons_right_iff.mp h
    rw [List.mapM_cons, hfirst item hitem, ih hrest hothers]
    rfl

theorem listOf_reads {decoder : Decoder α} {encode : α → Json} {depth : Nat} {buffered : Bool}
    (as : List α) (hread : ∀ a ∈ as, decoder.Reads ⟨depth, buffered⟩ (encode a) a) :
    (Decoder.listOf decoder).Reads ⟨depth + 1, buffered⟩ (.array (as.map encode)) as := by
  intro f hf
  obtain ⟨items, rfl, hitems⟩ := Fragment.exists_of_spells_array hf
  simp only [Decoder.listOf, Site.enter, bind, Except.bind, mapM_of_spells hread hitems, raise]

/-- A spelling of a readable value has no fault. -/
theorem hold_of_spells {f : Fragment} {j : Json} (hj : Readable site.depth j) (hf : f.Spells j) :
    Decoder.hold site f = .ok () := by
  obtain ⟨v, hv, -⟩ := ofFragment_of_spells hj hf
  simp only [Decoder.hold, Decoder.any, hv, Except.map]

end Decoder

/-! ## Records -/

/-- A part of a record has the name of an entry and spells its value. -/
def PartSpells (part : String × Nat × Fragment) (entry : String × Json) : Prop :=
  part.1 = entry.1 ∧ part.2.2.Spells entry.2

theorem exists_lookup_of_partSpells {known : List (String × Nat × Fragment)}
    {entries : List (String × Json)} (h : List.Forall₂ PartSpells known entries)
    (hnodup : (entries.map Prod.fst).Nodup) :
    ∀ entry ∈ entries, ∃ position f, known.lookup entry.1 = some (position, f) ∧
      f.Spells entry.2 := by
  induction h with
  | nil => exact fun _ h => nomatch h
  | @cons part entry known entries hpart _ ih =>
    refine List.forall_mem_cons.mpr ⟨⟨part.2.1, part.2.2, ?_, hpart.2⟩, fun other hother => ?_⟩
    · rw [Dictionary.lookup_cons, if_pos hpart.1.symm]
    · have hne : other.1 ≠ part.1 := hpart.1 ▸ Dictionary.ne_of_nodup_cons hnodup other hother
      rw [Dictionary.lookup_cons, if_neg hne]
      exact ih hnodup.of_cons other hother

namespace Members

/-- **Held entries.** The parts stand at a site, and the declared ones spell the entries. -/
structure Holds (m : Members) (site : Site) (entries : List (String × Json)) : Prop where
  site_eq : m.site = site
  lookup : ∀ entry ∈ entries, ∃ position f, m.known.lookup entry.1 = some (position, f) ∧
    f.Spells entry.2

variable {m : Members} {entries : List (String × Json)} {value : Json} {decoder : Decoder α}

theorem Holds.required_eq (hm : m.Holds site entries) (name : String) {a : α}
    (hread : decoder.Reads site value a) (h : (name, value) ∈ entries) :
    m.required name decoder = .value a := by
  obtain ⟨position, f, hlookup, hf⟩ := hm.lookup _ h
  simp only [required, hlookup, hm.site_eq, hread f hf, Reading.ofExcept]

theorem Holds.optional_eq (hm : m.Holds site entries) (name : String) {a : Option α}
    (hread : (Decoder.nullable decoder).Reads site value a) (h : (name, value) ∈ entries) :
    m.optional name decoder = .value a := by
  obtain ⟨position, f, hlookup, hf⟩ := hm.lookup _ h
  simp only [optional, hlookup, hm.site_eq, hread f hf, Reading.ofExcept]

variable {names : List String} {keep : Bool}

/-- Members are put behind those before them: the declared ones are known, the others kept. -/
theorem collect_of_spells {members : List (Quoted × Fragment)} {named : List (String × Json)}
    (h : List.Forall₂ MemberSpells members named) (m : Members) (position : Nat)
    (hnodup : (named.map Prod.fst).Nodup)
    (hknown : ∀ entry ∈ named, m.known.lookup entry.1 = none)
    (hkeep : ∀ entry ∈ named, entry.1 ∉ names → keep ∧ Readable m.site.depth entry.2) :
    ∃ known others limit, collect names keep m position none members =
        ⟨m.site, m.known.reverse ++ known, m.others.reverse ++ others, none, limit, m.named⟩ ∧
      List.Forall₂ PartSpells known (named.filter (·.1 ∈ names)) ∧
      List.Forall₂ MemberSpells others (named.filter (·.1 ∉ names)) := by
  -- Induction on the members: each one is put in front of what is known or of what is kept, and
  -- both stand in reverse until the end.
  induction h generalizing m position with
  | nil => exact ⟨[], [], position + 1, by simp [collect], .nil, .nil⟩
  | @cons member entry members named hmember _ ih =>
    obtain ⟨hnew, hothers⟩ := List.forall_mem_cons.mp hknown
    obtain ⟨hentry, hkeep⟩ := List.forall_mem_cons.mp hkeep
    rw [collect, hmember.1]
    simp only [String.ofList_toList]
    by_cases hname : entry.1 ∈ names
    · -- no later name is the one that becomes known
      have hstill : ∀ other ∈ named,
          List.lookup other.1 ((entry.1, position, member.2) :: m.known) = none := by
        intro other hother
        rw [Dictionary.lookup_cons, if_neg (Dictionary.ne_of_nodup_cons hnodup other hother)]
        exact hothers other hother
      obtain ⟨known, others, limit, hcollect, hdeclared, hkept⟩ :=
        ih { m with known := (entry.1, position, member.2) :: m.known } (position + 1)
          hnodup.of_cons hstill hkeep
      refine ⟨(entry.1, position, member.2) :: known, others, limit, ?_, ?_, ?_⟩
      · rw [if_pos (List.contains_iff_mem.mpr hname), hnew]
        simp [hcollect]
      · rw [List.filter_cons_of_pos (by simpa using hname)]
        exact .cons ⟨rfl, hmember.2⟩ hdeclared
      · rwa [List.filter_cons_of_neg (by simpa using hname)]
    · obtain ⟨hkeeps, hreadable⟩ := hentry hname
      obtain ⟨known, others, limit, hcollect, hdeclared, hkept⟩ :=
        ih { m with others := member :: m.others } (position + 1) hnodup.of_cons hothers hkeep
      refine ⟨known, member :: others, limit, ?_, ?_, ?_⟩
      · rw [if_neg (by simpa using hname), if_pos hkeeps,
          Decoder.hold_of_spells hreadable hmember.2]
        simp [hcollect]
      · rwa [List.filter_cons_of_neg (by simpa using hname)]
      · rw [List.filter_cons_of_pos (by simpa using hname)]
        exact .cons hmember hkept

/-- **Parts of a record**, in whatever order its members stand. The declared ones are known, the
others are kept, and nothing stops the record. -/
theorem exists_collect (names : List String) (keep : Bool) (site : Site) {f : Fragment}
    (hf : f.Spells (.object entries))
    (hnodup : (entries.map Prod.fst).Nodup)
    (hkeep : ∀ entry ∈ entries, entry.1 ∉ names → keep ∧ Readable site.depth entry.2) :
    ∃ members m, f = .object members none ∧
      collect names keep ⟨site, [], [], none, 0, true⟩ 0 none members = m ∧ m.stop = none ∧
      m.Holds site (entries.filter (·.1 ∈ names)) ∧
      (Fragment.object m.others none).Spells (.object (entries.filter (·.1 ∉ names))) := by
  obtain ⟨members, named, rfl, hmembers, hperm⟩ := Fragment.spells_object_iff.mp hf
  have hnamed : (named.map Prod.fst).Nodup := (hperm.map Prod.fst).nodup_iff.mpr hnodup
  obtain ⟨known, others, limit, hcollect, hdeclared, hkept⟩ :=
    collect_of_spells hmembers ⟨site, [], [], none, 0, true⟩ 0 hnamed (fun _ _ => rfl)
      fun entry hentry => hkeep entry (hperm.mem_iff.mp hentry)
  refine ⟨members, _, rfl, hcollect, rfl, ⟨rfl, fun entry hentry => ?_⟩, ?_⟩
  · exact exists_lookup_of_partSpells hdeclared
      (hnamed.sublist (List.filter_sublist.map Prod.fst)) entry
      ((hperm.filter _).mem_iff.mpr hentry)
  · exact Fragment.spells_object_iff.mpr ⟨_, _, rfl, hkept, hperm.filter _⟩

end Members

namespace Decoder

variable {names : List String} {build : Members → Reading α} {depth : Nat} {buffered : Bool}
  {entries : List (String × Json)} {a : α}

/-- **Reading a record.** It is built from its entries, which are all declared. -/
theorem record_reads (hnames : ∀ entry ∈ entries, entry.1 ∈ names)
    (hnodup : (entries.map Prod.fst).Nodup)
    (hbuild : ∀ m : Members, m.Holds ⟨depth, buffered⟩ entries → build m = .value a) :
    (Decoder.record names build).Reads ⟨depth + 1, buffered⟩ (.object entries) a := by
  intro f hf
  obtain ⟨members, m, rfl, hcollect, hstop, hholds, -⟩ :=
    Members.exists_collect names false ⟨depth, buffered⟩ hf hnodup fun entry hentry h =>
      absurd (hnames entry hentry) h
  rw [List.filter_eq_self.mpr (by simpa using hnames)] at hholds
  show Members.finish _ _ = _
  rw [hcollect, hbuild m hholds, Members.finish, hstop]

/-- **Reading an open record.** It is built from its declared entries and those it keeps. -/
theorem openRecord_reads (hnodup : (entries.map Prod.fst).Nodup)
    (hkeep : ∀ entry ∈ entries, entry.1 ∉ names → Readable depth entry.2)
    (hbuild : ∀ m : Members, m.Holds ⟨depth, buffered⟩ (entries.filter (·.1 ∈ names)) →
      (Fragment.object m.others none).Spells (.object (entries.filter (·.1 ∉ names))) →
      build m = .value a) :
    (Decoder.openRecord names build).Reads ⟨depth + 1, buffered⟩ (.object entries) a := by
  intro f hf
  obtain ⟨members, m, rfl, hcollect, hstop, hholds, hothers⟩ :=
    Members.exists_collect names true ⟨depth, buffered⟩ hf hnodup fun entry hentry h =>
      ⟨rfl, hkeep entry hentry h⟩
  show Members.finish _ _ = _
  rw [hcollect, hbuild m hholds hothers, Members.finish, hstop]

end Decoder

end DataGrid.Json
