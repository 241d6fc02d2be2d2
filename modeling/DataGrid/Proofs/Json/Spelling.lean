import DataGrid.Proofs.Json.FreeValue
import Mathlib.Data.List.Perm.Basic

/-!
# Spellings of a value

Fragments spell a value in more than one way: texts may be escaped, and members may stand in any
order. A free value is read from every spelling of a value, and spells that value again. Its members
are sorted, so it is another fragment than the one that was written.

## Main definitions

* `Fragment.Spells`: a fragment spells a value, up to the order of members
* `MemberSpells`, `EntrySpells`: a member, or an entry that was read, spells a name and a value
* `Readable`: values whose members have different names, and whose numbers are kept

## Main results

* `Fragment.spells_written`: a written value is spelled
* `ofFragment_of_spells`: a free value is read from a spelling, and is a spelling itself
-/

namespace DataGrid.Json

/-! ## Spellings -/

/-- **Spelling.** The members may stand in another order than those of the value. -/
inductive Fragment.Spells : Fragment → Json → Prop
  | null : Spells .null .null
  | bool (b : Bool) : Spells (.bool b) (.bool b)
  | number {text : List Char} {n : Number} (h : Number.ofText? text = some n) :
      Spells (.number text) (.number n)
  | string {q : Quoted} {s : String} (h : q.chars = .ok s.toList) : Spells (.string q) (.string s)
  | array {items : List Fragment} {values : List Json} (h : List.Forall₂ Spells items values) :
      Spells (.array items none) (.array values)
  | object {members : List (Quoted × Fragment)} {named values : List (String × Json)}
      (hnames : List.Forall₂ (fun member entry => member.1.chars = .ok entry.1.toList)
        members named)
      (hvalues : List.Forall₂ (fun member entry => Spells member.2 entry.2) members named)
      (hperm : named.Perm values) : Spells (.object members none) (.object values)

/-- A member spells a name and a value. -/
def MemberSpells (member : Quoted × Fragment) (entry : String × Json) : Prop :=
  member.1.chars = .ok entry.1.toList ∧ member.2.Spells entry.2

theorem forall₂_memberSpells_iff {members : List (Quoted × Fragment)}
    {named : List (String × Json)} :
    List.Forall₂ MemberSpells members named ↔
      List.Forall₂ (fun member entry => member.1.chars = .ok entry.1.toList) members named ∧
        List.Forall₂ (fun member entry => member.2.Spells entry.2) members named := by
  constructor
  · exact fun h => ⟨h.imp fun _ _ h => h.1, h.imp fun _ _ h => h.2⟩
  · rintro ⟨hnames, hvalues⟩
    induction hnames with
    | nil => exact .nil
    | cons hname _ ih =>
      obtain ⟨hvalue, hvalues⟩ := List.forall₂_cons.mp hvalues
      exact .cons ⟨hname, hvalue⟩ (ih hvalues)

namespace Fragment

variable {f : Fragment}

theorem exists_of_spells_string {s : String} (h : f.Spells (.string s)) :
    ∃ q : Quoted, f = .string q ∧ q.chars = .ok s.toList := by
  cases h with
  | string h => exact ⟨_, rfl, h⟩

theorem exists_of_spells_array {values : List Json} (h : f.Spells (.array values)) :
    ∃ items, f = .array items none ∧ List.Forall₂ Spells items values := by
  cases h with
  | array h => exact ⟨_, rfl, h⟩

/-- An object is spelled by members that spell its own in some order. -/
theorem spells_object_iff {values : List (String × Json)} :
    f.Spells (.object values) ↔ ∃ members named, f = .object members none ∧
      List.Forall₂ MemberSpells members named ∧ named.Perm values := by
  constructor
  · intro h
    cases h with
    | object hnames hvalues hperm =>
      exact ⟨_, _, rfl, forall₂_memberSpells_iff.mpr ⟨hnames, hvalues⟩, hperm⟩
  · rintro ⟨members, named, rfl, hspells, hperm⟩
    obtain ⟨hnames, hvalues⟩ := forall₂_memberSpells_iff.mp hspells
    exact .object hnames hvalues hperm

end Fragment

/-! ## Values that are read from every spelling -/

/-- **Readable values.** The members of an object have different names, numbers are exact integers,
and arrays and objects are inside each other at most so deep. -/
inductive Readable : Nat → Json → Prop
  | null (depth : Nat) : Readable depth .null
  | bool (depth : Nat) (b : Bool) : Readable depth (.bool b)
  | integer (depth : Nat) {n : Int} (h : Number.Exact n) : Readable depth (.number (.integer n))
  | string (depth : Nat) (s : String) : Readable depth (.string s)
  | array {depth : Nat} {items : List Json} (h : ∀ item ∈ items, Readable depth item) :
      Readable (depth + 1) (.array items)
  | object {depth : Nat} {members : List (String × Json)} (hnodup : (members.map Prod.fst).Nodup)
      (h : ∀ member ∈ members, Readable depth member.2) : Readable (depth + 1) (.object members)

theorem Readable.array_map {α : Type} {depth : Nat} {encode : α → Json} {as : List α}
    (h : ∀ a ∈ as, Readable depth (encode a)) : Readable (depth + 1) (.array (as.map encode)) :=
  .array (List.forall_mem_map.mpr h)

theorem Readable.nullable {α : Type} {depth : Nat} (write : α → String) (o : Option α) :
    Readable depth ((o.map fun a => .string (write a)).getD .null) := by
  cases o with
  | none => exact .null depth
  | some a => exact .string depth (write a)

theorem isWhole_of_readable {depth : Nat} {j : Json} (h : Readable depth j) : isWhole j := by
  induction h with
  | null | bool | integer | string => rfl
  | array _ ih => exact areWhole_iff.mpr ih
  | object _ _ ih => exact haveWhole_iff.mpr ih

namespace Fragment

theorem forall₂_spells_writtenItems {items : List Json}
    (h : ∀ item ∈ items, (written item).Spells item) :
    List.Forall₂ Spells (writtenItems items) items := by
  induction items with
  | nil => exact .nil
  | cons item rest ih =>
    obtain ⟨hitem, hrest⟩ := List.forall_mem_cons.mp h
    exact .cons hitem (ih hrest)

theorem forall₂_spells_writtenMembers {members : List (String × Json)}
    (h : ∀ member ∈ members, (written member.2).Spells member.2) :
    List.Forall₂ MemberSpells (writtenMembers members) members := by
  induction members with
  | nil => exact .nil
  | cons member rest ih =>
    obtain ⟨hmember, hrest⟩ := List.forall_mem_cons.mp h
    exact .cons ⟨Quoted.written_chars _, hmember⟩ (ih hrest)

/-- **Written values** are spelled. -/
theorem spells_written {depth : Nat} {j : Json} (h : Readable depth j) : (written j).Spells j := by
  induction h with
  | null => exact .null
  | bool depth b => exact .bool b
  | integer depth h => exact .number (Number.ofText?_signed h)
  | string depth s => exact .string (Quoted.written_chars _)
  | array _ ih => exact .array (forall₂_spells_writtenItems ih)
  | object _ _ ih =>
    exact spells_object_iff.mpr ⟨_, _, rfl, forall₂_spells_writtenMembers ih, .refl _⟩

end Fragment

/-! ## Reading a free value -/

theorem Quoted.ofText_chars (s : String) : (Quoted.ofText s).chars = .ok s.toList := by
  show piecesChars none (s.toList.map .char) = .ok s.toList
  induction s.toList with
  | nil => rfl
  | cons c rest ih =>
    rw [List.map_cons, piecesChars, ih]
    rfl

theorem Fragment.ofItems_eq_map (items : List Json) :
    Fragment.ofItems items = items.map Fragment.ofJson := by
  induction items with
  | nil => rfl
  | cons item rest ih => rw [ofItems, ih, List.map_cons]

section FreeValue

variable {depth : Nat}

theorem ofFragments_of_spells {items : List Fragment} {values : List Json}
    (h : List.Forall₂ Fragment.Spells items values)
    (hread : ∀ value ∈ values, ∀ f : Fragment, f.Spells value →
      ∃ v, ofFragment depth f = .ok v ∧ (Fragment.ofJson v).Spells value) :
    ∃ vs, ofFragments depth items = .ok vs ∧
      List.Forall₂ Fragment.Spells (Fragment.ofItems vs) values := by
  induction h with
  | nil => exact ⟨[], rfl, .nil⟩
  | cons hitem _ ih =>
    obtain ⟨hfirst, hrest⟩ := List.forall_mem_cons.mp hread
    obtain ⟨v, hv, hspells⟩ := hfirst _ hitem
    obtain ⟨vs, hvs, hothers⟩ := ih hrest
    exact ⟨v :: vs, by rw [ofFragments, hv, hvs]; rfl, .cons hspells hothers⟩

/-- What was read has the name of an entry and spells its value. -/
def EntrySpells (read entry : String × Json) : Prop :=
  read.1 = entry.1 ∧ (Fragment.ofJson read.2).Spells entry.2

/-- The values of members are read one by one, and put into what is there already. -/
theorem ofMembers_of_spells {members : List (Quoted × Fragment)} {named : List (String × Json)}
    (h : List.Forall₂ MemberSpells members named)
    (hread : ∀ entry ∈ named, ∀ f : Fragment, f.Spells entry.2 →
      ∃ v, ofFragment depth f = .ok v ∧ (Fragment.ofJson v).Spells entry.2) :
    ∃ read, List.Forall₂ EntrySpells read named ∧
      ∀ sorted, ofMembers depth sorted members =
        .ok (read.foldl (fun sorted (name, value) => Dictionary.insert name value sorted)
          sorted) := by
  induction h with
  | nil => exact ⟨[], .nil, fun _ => rfl⟩
  | @cons member entry members named hmember _ ih =>
    obtain ⟨hfirst, hrest⟩ := List.forall_mem_cons.mp hread
    obtain ⟨v, hv, hspells⟩ := hfirst _ hmember.2
    obtain ⟨read, hnamed, hothers⟩ := ih hrest
    refine ⟨(entry.1, v) :: read, .cons ⟨rfl, hspells⟩ hnamed, fun sorted => ?_⟩
    rw [ofMembers, hmember.1, hv]
    simp only [bind, Except.bind, String.ofList_toList, hothers, List.foldl_cons]

theorem forall₂_spells_ofMembers {read named : List (String × Json)}
    (h : List.Forall₂ EntrySpells read named) :
    List.Forall₂ MemberSpells (Fragment.ofMembers read) named := by
  induction h with
  | nil => exact .nil
  | cons h _ ih => exact .cons ⟨by rw [Quoted.ofText_chars, h.1], h.2⟩ ih

/-- **Reading a free value.** It is read from any spelling of a readable value, and it is a spelling
of that value. -/
theorem ofFragment_of_spells {j : Json} (hj : Readable depth j) {f : Fragment} (h : f.Spells j) :
    ∃ v, ofFragment depth f = .ok v ∧ (Fragment.ofJson v).Spells j := by
  induction hj generalizing f with
  | null depth =>
    cases h
    exact ⟨.null, rfl, .null⟩
  | bool depth b =>
    cases h
    exact ⟨.bool b, rfl, .bool b⟩
  | @integer depth n hexact =>
    cases h with
    | number h =>
      exact ⟨.number (.integer n), by rw [ofFragment, h], .number (Number.ofText?_signed hexact)⟩
  | string depth s =>
    obtain ⟨q, rfl, hq⟩ := Fragment.exists_of_spells_string h
    refine ⟨.string s, ?_, .string (Quoted.ofText_chars s)⟩
    rw [ofFragment, hq]
    exact congrArg (fun s => Except.ok (Json.string s)) String.ofList_toList
  | array _ ih =>
    obtain ⟨items, rfl, hitems⟩ := Fragment.exists_of_spells_array h
    obtain ⟨vs, hvs, hspells⟩ := ofFragments_of_spells hitems fun value hvalue _ => ih value hvalue
    exact ⟨.array vs, by rw [ofFragment, hvs]; rfl, .array hspells⟩
  | @object depth values hnodup _ ih =>
    -- members are read in the order of the text and put into a dictionary
    obtain ⟨members, named, rfl, hmembers, hperm⟩ := Fragment.spells_object_iff.mp h
    obtain ⟨read, hread, hfold⟩ := ofMembers_of_spells hmembers fun entry hentry _ =>
      ih entry (hperm.mem_iff.mp hentry)
    refine ⟨.object (Dictionary.ofList read), by rw [ofFragment, hfold]; rfl, ?_⟩
    -- the names of what was read are those of the value, so the dictionary holds all of it
    have hnames : (read.map Prod.fst).Perm (values.map Prod.fst) := by
      have hsame : read.map Prod.fst = named.map Prod.fst := by
        rw [← List.forall₂_eq_eq_eq, List.forall₂_map_left_iff, List.forall₂_map_right_iff]
        exact hread.imp fun _ _ h => h.1
      exact hsame ▸ hperm.map Prod.fst
    obtain ⟨sorted, hsorted, hnamed⟩ := List.perm_comp_forall₂
      (Dictionary.perm_ofList (hnames.nodup_iff.mpr hnodup)) hread
    exact Fragment.spells_object_iff.mpr
      ⟨_, sorted, rfl, forall₂_spells_ofMembers hsorted, hnamed.trans hperm⟩

end FreeValue

end DataGrid.Json
