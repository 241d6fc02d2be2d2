import DataGrid.Json.Decoder
import DataGrid.Proofs.Dictionary
import DataGrid.Proofs.Json.Document

/-!
# Decoding written values

A record that is read holds what its decoders read, and a written record gives each decoder the
member that was written for it.

## Main results

* `Decoder.exists_of_record`, `Members.exists_of_required`, `Members.exists_of_withDefault`: what
  a record was read from
* `Decoder.sorted_of_mapOf`, `Decoder.exists_of_mapOf`: what members were read from
* `Members.collect_writtenMembers`: the parts of a written record
* `decode_text`: a written value is decoded as its fragment
-/

namespace DataGrid.Json

variable {α β : Type}

/-! ## What was read -/

theorem exists_of_bind_eq_ok {r : Except Fault α} {next : α → Except Fault β} {b : β}
    (h : r >>= next = .ok b) : ∃ a, r = .ok a ∧ next a = .ok b := by
  cases r with
  | ok a => exact ⟨a, rfl, h⟩
  | error fault => cases h

theorem exists_of_mapM_eq_ok {f : α → Except Fault β} {as : List α} {bs : List β}
    (h : as.mapM f = .ok bs) {b : β} (hb : b ∈ bs) : ∃ a ∈ as, f a = .ok b := by
  induction as generalizing bs with
  | nil =>
    obtain rfl := Except.ok.inj h
    cases hb
  | cons a as ih =>
    rw [List.mapM_cons] at h
    obtain ⟨first, hfirst, h⟩ := exists_of_bind_eq_ok h
    obtain ⟨others, hothers, h⟩ := exists_of_bind_eq_ok h
    obtain rfl := Except.ok.inj h
    rcases List.mem_cons.mp hb with rfl | hb
    · exact ⟨a, List.mem_cons_self, hfirst⟩
    · obtain ⟨source, hsource, hread⟩ := ih hothers hb
      exact ⟨source, List.mem_cons_of_mem a hsource, hread⟩

theorem Reading.map_eq_value {r : Reading α} {f : α → β} {b : β} (h : f <$> r = .value b) :
    ∃ a, r = .value a ∧ f a = b := by
  cases r with
  | value a => exact ⟨a, rfl, Reading.value.inj h⟩
  | fault position fault => cases h

theorem Reading.seq_eq_value {r : Reading (α → β)} {s : Reading α} {b : β}
    (h : r <*> s = .value b) : ∃ f a, r = .value f ∧ s = .value a ∧ f a = b := by
  cases r with
  | value f =>
    cases s with
    | value a => exact ⟨f, a, rfl, rfl, Reading.value.inj h⟩
    | fault position fault => cases h
  | fault position fault =>
    cases s with
    | value a => cases h
    | fault other next =>
      -- of two faults one is left
      obtain ⟨⟨f, a⟩, hboth, -⟩ := Reading.map_eq_value h
      rw [Reading.both] at hboth
      split at hboth <;> cases hboth

theorem Reading.ofExcept_eq_value {position : Nat} {r : Except Fault α} {a : α}
    (h : Reading.ofExcept position r = .value a) : r = .ok a := by
  cases r with
  | ok b => rw [Reading.value.inj h]
  | error fault => cases h

theorem Members.eq_value_of_finish {m : Members} {r : Reading α} {a : α}
    (h : m.finish r = .ok a) : r = .value a := by
  unfold finish at h
  split at h
  · -- what was read counts only if nothing stops the record
    split at h
    · rw [Except.ok.inj h]
    · cases h
  · split at h <;> cases h

/-- One array or object less may be opened inside. -/
theorem Site.depth_of_enter {site inner : Site} (h : site.enter = .ok inner) :
    site.depth = inner.depth + 1 := by
  unfold Site.enter at h
  split at h
  · cases h
  · rename_i hdepth
    rw [← Except.ok.inj h, hdepth]

theorem Members.site_collect {names : List String} {keep : Bool} {fault : Option Fault}
    (members : List (Quoted × Fragment)) (m : Members) (position : Nat) :
    (collect names keep m position fault members).site = m.site := by
  -- a record is ended where it is, or gone on with at the same site
  fun_induction collect names keep m position fault members <;> first | rfl | assumption

/-- A member that has to be there was read by its decoder. -/
theorem Members.exists_of_required {m : Members} {name : String} {decoder : Decoder α} {a : α}
    (h : m.required name decoder = .value a) : ∃ f, decoder m.site f = .ok a := by
  unfold Members.required at h
  split at h
  · exact ⟨_, Reading.ofExcept_eq_value h⟩
  · cases h

/-- A member that may be absent was read by its decoder, or is what it is by default. -/
theorem Members.exists_of_withDefault {m : Members} {name : String} {default : α}
    {decoder : Decoder α} {a : α} (h : m.withDefault name default decoder = .value a) :
    (∃ f, decoder m.site f = .ok a) ∨ a = default := by
  unfold Members.withDefault at h
  split at h
  · exact .inl ⟨_, Reading.ofExcept_eq_value h⟩
  · exact .inr (Reading.value.inj h).symm

namespace Decoder

/-- A record was built from its parts, which stand inside it. -/
theorem exists_of_record {names : List String} {build : Members → Reading α} {site : Site}
    {f : Fragment} {a : α} (h : record names build site f = .ok a) :
    ∃ m, site.enter = .ok m.site ∧ build m = .value a := by
  unfold record at h
  split at h
  · obtain ⟨inner, henter, hfinish⟩ := exists_of_bind_eq_ok h
    refine ⟨_, ?_, Members.eq_value_of_finish hfinish⟩
    rw [henter, Members.site_collect]
  · obtain ⟨inner, henter, hfinish⟩ := exists_of_bind_eq_ok h
    exact ⟨_, henter, Members.eq_value_of_finish hfinish⟩
  · cases h

/-- Members that were read stand in the order of their names. -/
theorem sorted_of_mapOf {decoder : Decoder α} {site : Site} {f : Fragment}
    {entries : Dictionary α} (h : mapOf decoder site f = .ok entries) :
    Dictionary.Sorted entries := by
  unfold mapOf at h
  split at h
  · -- what was read is put into a dictionary at the end
    obtain ⟨inner, -, h⟩ := exists_of_bind_eq_ok h
    obtain ⟨read, -, h⟩ := exists_of_bind_eq_ok h
    obtain ⟨-, -, h⟩ := exists_of_bind_eq_ok h
    rw [← Except.ok.inj h]
    exact Dictionary.sorted_ofList read
  · cases h

/-- The value of each member was read by the decoder of values, inside the object. -/
theorem exists_of_mapOf {decoder : Decoder α} {site : Site} {f : Fragment}
    {entries : Dictionary α} (h : mapOf decoder site f = .ok entries) :
    ∃ inner, site.enter = .ok inner ∧
      ∀ entry ∈ entries, ∃ g, decoder inner g = .ok entry.2 := by
  unfold mapOf at h
  split at h
  · obtain ⟨inner, henter, h⟩ := exists_of_bind_eq_ok h
    obtain ⟨read, hread, h⟩ := exists_of_bind_eq_ok h
    obtain ⟨-, -, h⟩ := exists_of_bind_eq_ok h
    refine ⟨inner, henter, fun entry hentry => ?_⟩
    rw [← Except.ok.inj h] at hentry
    -- what is in the dictionary was read from one of the members
    obtain ⟨member, -, hmember⟩ := exists_of_mapM_eq_ok hread (Dictionary.mem_ofList hentry)
    obtain ⟨name, -, hmember⟩ := exists_of_bind_eq_ok hmember
    obtain ⟨value, hvalue, hmember⟩ := exists_of_bind_eq_ok hmember
    exact ⟨member.2, by rw [hvalue, ← Except.ok.inj hmember]⟩
  · cases h

end Decoder

/-- What a text is decoded to was read from its root. -/
theorem eq_ok_of_decode {decoder : Decoder α} {text : String} {a : α}
    (h : decode decoder text = .ok a) : decoder {} (Document.ofText text).root = .ok a := by
  obtain ⟨b, hb, h⟩ := exists_of_bind_eq_ok h
  split at h
  · cases h
  · rwa [← Except.ok.inj h]

/-! ## Written values -/

/-- **Decoding a written value.** The value is decoded as its fragment. -/
theorem decode_text (decoder : Decoder α) {j : Json} (h : isWhole j) :
    decode decoder j.text = decoder {} (.written j) := by
  rw [decode, Document.ofText_text h]
  cases decoder {} (.written j) <;> rfl

theorem Decoder.text_written (s : String) (site : Site) :
    Decoder.text site (.written (.string s)) = .ok s := by
  show (Quoted.written s.toList).chars.map String.ofList = .ok s
  rw [Quoted.written_chars]
  exact congrArg Except.ok String.ofList_toList

/-- What is written as a text is read back if its reader reads that text back. -/
theorem Decoder.parsed_written {read : String → Option α} {s : String} {a : α}
    (h : read s = some a) (site : Site) :
    Decoder.parsed read site (.written (.string s)) = .ok a := by
  simp only [Decoder.parsed, Decoder.text_written, bind, Except.bind, h]

/-- A name that is written as a text is read back as its constant. -/
theorem Decoder.choice_written {find : String → Option α} {name : String} {a : α}
    (h : find name = some a) (site : Site) :
    Decoder.choice find site (.written (.string name)) = .ok a := by
  simp only [Decoder.choice, Fragment.written, Quoted.written_chars, bind, Except.bind,
    String.ofList_toList, h]

/-- The members of a written record as its parts, from a position on. -/
def Members.writtenFrom (position : Nat) (members : List (String × Json)) :
    List (String × Nat × Fragment) :=
  (members.zipIdx position).map fun entry => (entry.1.1, entry.2, .written entry.1.2)

theorem Members.lookup_writtenFrom {name : String} {value : Json} {members : List (String × Json)}
    (h : members.lookup name = some value) (position : Nat) :
    ∃ i, (writtenFrom position members).lookup name = some (i, .written value) := by
  induction members generalizing position with
  | nil => cases h
  | cons member members ih =>
    simp only [writtenFrom, List.zipIdx_cons, List.map_cons, Dictionary.lookup_cons] at h ih ⊢
    split
    · -- the first member, at the first position
      rename_i heq
      rw [if_pos heq] at h
      exact ⟨position, by rw [Option.some.inj h]⟩
    · -- a later one, from the next position on
      rename_i hne
      rw [if_neg hne] at h
      exact ih h (position + 1)

/-- A member that has to be there is read from what was written for it. -/
theorem Members.required_written {m : Members} {name : String} (value : Json)
    {members : List (String × Json)} {position : Nat} {decoder : Decoder α} {a : α}
    (hknown : m.known = writtenFrom position members) (h : members.lookup name = some value)
    (hdecode : decoder m.site (.written value) = .ok a) :
    m.required name decoder = .value a := by
  obtain ⟨i, hlookup⟩ := lookup_writtenFrom h position
  simp only [required, hknown, hlookup, hdecode, Reading.ofExcept]

/-- A member that may be null is read from what was written for it. -/
theorem Members.optional_written {m : Members} {name : String} (value : Json)
    {members : List (String × Json)} {position : Nat} {decoder : Decoder α} {a : Option α}
    (hknown : m.known = writtenFrom position members) (h : members.lookup name = some value)
    (hdecode : Decoder.nullable decoder m.site (.written value) = .ok a) :
    m.optional name decoder = .value a := by
  obtain ⟨i, hlookup⟩ := lookup_writtenFrom h position
  simp only [optional, hknown, hlookup, hdecode, Reading.ofExcept]

/-- A member that may be absent is read from what was written for it. -/
theorem Members.withDefault_written {m : Members} {name : String} (value : Json)
    {members : List (String × Json)} {position : Nat} {decoder : Decoder α} {a default : α}
    (hknown : m.known = writtenFrom position members) (h : members.lookup name = some value)
    (hdecode : decoder m.site (.written value) = .ok a) :
    m.withDefault name default decoder = .value a := by
  obtain ⟨i, hlookup⟩ := lookup_writtenFrom h position
  simp only [withDefault, hknown, hlookup, hdecode, Reading.ofExcept]

/-- Declared members are put behind those before them, whose names are other ones. -/
theorem Members.collect_writtenMembers_append {names : List String} {keep : Bool}
    (members : List (String × Json)) (m : Members) (position : Nat)
    (hnames : ∀ member ∈ members, member.1 ∈ names)
    (hknown : ∀ member ∈ members, m.known.lookup member.1 = none)
    (hnodup : (members.map Prod.fst).Nodup) :
    Members.collect names keep m position none (Fragment.writtenMembers members) =
      { m with
        stop := none
        limit := position + members.length + 1
        known := m.known.reverse ++ writtenFrom position members
        others := m.others.reverse } := by
  -- Induction on the members: each one is put in front of the known ones, which stand in reverse.
  induction members generalizing m position with
  | nil => simp [Fragment.writtenMembers, Members.collect, writtenFrom]
  | cons member members ih =>
    obtain ⟨name, value⟩ := member
    have hname : name ∈ names := hnames _ List.mem_cons_self
    have hnew : m.known.lookup name = none := hknown _ List.mem_cons_self
    rw [Fragment.writtenMembers, Members.collect, Quoted.written_chars]
    simp only [String.ofList_toList, List.contains_iff_mem.mpr hname, hnew, if_true,
      Option.isSome_none, Bool.false_eq_true, if_false]
    rw [ih _ _ (fun other hother => hnames other (List.mem_cons_of_mem _ hother)) ?_ hnodup.of_cons]
    · simp [writtenFrom, List.zipIdx_cons, Nat.add_right_comm, Nat.add_assoc]
    · -- no later name is the one that has become known
      intro other hother
      rw [Dictionary.lookup_cons, if_neg (Dictionary.ne_of_nodup_cons hnodup other hother)]
      exact hknown other (List.mem_cons_of_mem _ hother)

/-- **Parts of a written record.** Declared members with different names are all known. -/
theorem Members.collect_writtenMembers {names : List String} (keep : Bool) (site : Site)
    {members : List (String × Json)} (hnames : ∀ member ∈ members, member.1 ∈ names)
    (hnodup : (members.map Prod.fst).Nodup) :
    Members.collect names keep ⟨site, [], [], none, 0, true⟩ 0 none
        (Fragment.writtenMembers members) =
      ⟨site, writtenFrom 0 members, [], none, members.length + 1, true⟩ := by
  rw [collect_writtenMembers_append members _ 0 hnames (fun _ _ => rfl) hnodup]
  simp

/-- **Reading a written record.** The record is built from its members. -/
theorem Decoder.record_written {names : List String} {build : Members → Reading α} {depth : Nat}
    {buffered : Bool} {members : List (String × Json)}
    (hnames : ∀ member ∈ members, member.1 ∈ names) (hnodup : (members.map Prod.fst).Nodup)
    {a : α} (hbuild : build ⟨⟨depth, buffered⟩, Members.writtenFrom 0 members, [], none,
      members.length + 1, true⟩ = .value a) :
    Decoder.record names build ⟨depth + 1, buffered⟩ (.written (.object members)) = .ok a := by
  have hcollect := Members.collect_writtenMembers false ⟨depth, buffered⟩ hnames hnodup
  rw [Fragment.written]
  show Members.finish _ _ = _
  rw [hcollect, hbuild]
  rfl

/-- A member with its name. -/
def Decoder.entry (decoder : Decoder α) (site : Site) (member : Quoted × Fragment) :
    Except Fault (String × α) := do
  let name ← member.1.chars
  return (String.ofList name, ← decoder site member.2)

theorem Decoder.mapM_entry_written {decoder : Decoder α} {encode : α → Json} {site : Site}
    {entries : Dictionary α}
    (hdecode : ∀ entry ∈ entries, decoder site (.written (encode entry.2)) = .ok entry.2) :
    (Fragment.writtenMembers (entries.map fun entry => (entry.1, encode entry.2))).mapM
      (decoder.entry site) = .ok entries := by
  induction entries with
  | nil => rfl
  | cons entry rest ih =>
    have hfirst : decoder.entry site (.written entry.1.toList, .written (encode entry.2)) =
        .ok entry := by
      have hvalue := hdecode entry List.mem_cons_self
      simp only [Decoder.entry, Quoted.written_chars, hvalue]
      exact congrArg (fun name => Except.ok (name, entry.2)) String.ofList_toList
    have hrest := ih fun other hother => hdecode other (List.mem_cons_of_mem entry hother)
    rw [List.map_cons, Fragment.writtenMembers, List.mapM_cons, hfirst, hrest]
    rfl

/-- **Reading written members.** A written dictionary is read back if its values are. -/
theorem Decoder.mapOf_written {decoder : Decoder α} {encode : α → Json} {depth : Nat}
    {buffered : Bool} {entries : Dictionary α} (hsorted : Dictionary.Sorted entries)
    (hdecode : ∀ entry ∈ entries,
      decoder ⟨depth, buffered⟩ (.written (encode entry.2)) = .ok entry.2) :
    Decoder.mapOf decoder ⟨depth + 1, buffered⟩
        (.written (.object (entries.map fun entry => (entry.1, encode entry.2)))) =
      .ok entries := by
  calc Decoder.mapOf decoder ⟨depth + 1, buffered⟩
        (.written (.object (entries.map fun entry => (entry.1, encode entry.2))))
    _ = (do
          let read ← (Fragment.writtenMembers
            (entries.map fun entry => (entry.1, encode entry.2))).mapM
              (decoder.entry ⟨depth, buffered⟩)
          .ok (Dictionary.ofList read)) := rfl
    _ = .ok entries := by
      rw [Decoder.mapM_entry_written hdecode]
      exact congrArg Except.ok (Dictionary.ofList_of_sorted hsorted)

end DataGrid.Json
