import DataGrid.Filter.Widget
import DataGrid.Proofs.Calendar.Text
import DataGrid.Proofs.Json.Reads

/-!
# Widgets that are read back

A widget is an object whose members say its kind and its parts, in any order. The kind is taken out
and the parts are held until it is known. Every spelling of a written widget is read as the widget.

## Main definitions

* `Widget.kind`, `Widget.parts`: what the members of a widget say

## Main results

* `Widget.split_of_spells`: the kind is taken out wherever it stands
* `Widget.decodeParts_reads`: the parts of each kind are read
* `Widget.decode_reads`: written widgets are read back
-/

namespace DataGrid

open Json Calendar

theorem Calendar.Date.decode_reads {site : Site} (d : Date) :
    Date.decode.Reads site (.string d.text) d :=
  Decoder.parsed_reads d.ofText?_text

namespace SelectOption

variable {depth : Nat} {buffered : Bool}

theorem decode_reads (o : SelectOption) :
    SelectOption.decode.Reads ⟨depth + 1, buffered⟩ o.encode o := by
  refine Decoder.record_reads (by simp) (by simp) fun m hm => ?_
  rw [hm.required_eq "value" (Decoder.text_reads o.value) (by simp),
    hm.required_eq "label" (Decoder.text_reads o.label) (by simp)]
  rfl

theorem readable_encode (o : SelectOption) : Readable (depth + 1) o.encode :=
  .object (by simp) (by simp [Readable.string])

end SelectOption

namespace Widget

/-! ## Kind and parts -/

/-- The kind of a widget. -/
def kind : Widget → Kind
  | textField _ => .textField
  | select _ _ _ => .select
  | autocomplete _ _ => .autocomplete
  | checkbox _ => .checkbox
  | dateRange _ _ => .dateRange
  | none => .none

/-- The parts of a widget: its members without the first one, which says the kind. -/
def parts (w : Widget) : List (String × Json) := w.members.tail

theorem members_eq (w : Widget) : w.members = ("widget", .string w.kind.name) :: w.parts := by
  cases w <;> rfl

theorem ne_widget_of_mem_parts {w : Widget} : ∀ part ∈ w.parts, part.1 ≠ "widget" := by
  cases w <;> simp [parts, members]

section Readable

variable {depth : Nat}

theorem readable_encodeText? (s : Option String) : Readable depth (encodeText? s) :=
  .nullable (fun s => s) s

theorem readable_encodeDate? (d : Option Date) : Readable depth (encodeDate? d) :=
  .nullable Date.text d

theorem readable_encodeTexts (texts : List String) : Readable (depth + 1) (encodeTexts texts) :=
  .array_map fun s _ => .string depth s

theorem readable_encodeOptions (options : List SelectOption) :
    Readable (depth + 2) (.array (options.map SelectOption.encode)) :=
  .array_map fun o _ => o.readable_encode

/-- The members of a widget open an array of objects at most. -/
theorem readable_members (w : Widget) : ∀ member ∈ w.members, Readable (depth + 2) member.2 := by
  cases w <;> simp [members, Readable.string, Readable.bool, readable_encodeText?,
    readable_encodeDate?, readable_encodeTexts, readable_encodeOptions]

end Readable

/-! ## Taking the kind out -/

section Split

variable {depth : Nat} {buffered : Bool}

theorem Kind.decode_reads {site : Site} (k : Kind) : Kind.decode.Reads site (.string k.name) k :=
  Decoder.tag_reads (by cases k <;> decide)

/-- Members that do not say the kind are held. -/
theorem splitMembers_append {site : Site} {kind : Option Kind} {kept : List (Quoted × Fragment)}
    {members : List (Quoted × Fragment)} {named : List (String × Json)}
    (h : List.Forall₂ MemberSpells members named)
    (hparts : ∀ part ∈ named, part.1 ≠ "widget" ∧ Readable site.depth part.2)
    (rest : List (Quoted × Fragment)) :
    splitMembers site kind kept .none (members ++ rest) =
      splitMembers site kind (members.reverse ++ kept) .none rest := by
  induction h generalizing kept with
  | nil => rfl
  | cons hmember _ ih =>
    obtain ⟨⟨hname, hreadable⟩, hrest⟩ := List.forall_mem_cons.mp hparts
    rw [List.cons_append, splitMembers, hmember.1]
    simp only [bind, Except.bind, String.ofList_toList, if_neg hname,
      Decoder.hold_of_spells hreadable hmember.2, ih hrest, List.reverse_cons, List.append_assoc,
      List.singleton_append]

/-- **Splitting.** The kind of a widget is taken out wherever it stands, and the other members
spell the parts. -/
theorem split_of_spells {f : Fragment} {kind : Kind} {parts : List (String × Json)}
    (hf : f.Spells (.object (("widget", .string kind.name) :: parts)))
    (hparts : ∀ part ∈ parts, part.1 ≠ "widget" ∧ Readable depth part.2) :
    ∃ g, split ⟨depth + 1, buffered⟩ f = .ok (kind, g) ∧ g.Spells (.object parts) := by
  obtain ⟨members, named, rfl, hmembers, hperm⟩ := Fragment.spells_object_iff.mp hf
  -- the members before the kind and those after it together spell the parts
  obtain ⟨before, after, rfl⟩ := List.append_of_mem (hperm.mem_iff.mpr List.mem_cons_self)
  have hrest : (before ++ after).Perm parts := (List.perm_middle.symm.trans hperm).cons_inv
  have hheld := fun part hpart => hparts part (hrest.mem_iff.mp hpart)
  obtain ⟨member, later, hmember, hlater, hdrop⟩ :=
    List.forall₂_cons_right_iff.mp (List.forall₂_drop_append _ _ _ hmembers)
  obtain ⟨earlier, hearlier, rfl⟩ : ∃ earlier, List.Forall₂ MemberSpells earlier before ∧
      members = earlier ++ member :: later :=
    ⟨_, List.forall₂_take_append _ _ _ hmembers, by rw [← hdrop, List.take_append_drop]⟩
  refine ⟨.object (earlier ++ later) .none, ?_, ?_⟩
  · show splitMembers ⟨depth, buffered⟩ .none [] .none _ = _
    rw [splitMembers_append hearlier fun part hpart => hheld part (List.mem_append_left _ hpart),
      splitMembers, hmember.1]
    simp only [bind, Except.bind, String.ofList_toList, if_true, Option.isSome_none,
      Bool.false_eq_true, if_false, Kind.decode_reads kind _ hmember.2]
    rw [← List.append_nil later,
      splitMembers_append hlater fun part hpart => hheld part (List.mem_append_right _ hpart)]
    simp [splitMembers, raise, bind, Except.bind]
  · exact Fragment.spells_object_iff.mpr ⟨_, _, rfl, List.rel_append hearlier hlater, hrest⟩

end Split

/-! ## Reading the parts -/

variable {depth : Nat} {buffered : Bool}

/-- **Parts.** The parts of a widget are read by the decoder of its kind. -/
theorem decodeParts_reads (w : Widget) :
    (decodeParts w.kind).Reads ⟨depth + 3, buffered⟩ (.object w.parts) w := by
  cases w with
  | textField initial =>
    show (decodeParts .textField).Reads _ (.object [("default", .string initial)]) _
    rw [decodeParts]
    refine Decoder.record_reads (by simp) (by simp) fun m hm => ?_
    rw [hm.required_eq "default" (Decoder.text_reads initial) (by simp)]
    rfl
  | select options initial displayFields =>
    show (decodeParts .select).Reads _ (.object
      [("options", .array (options.map SelectOption.encode)),
        ("default", (initial.map fun s => .string s).getD .null),
        ("display_fields", .array (displayFields.map .string))]) _
    rw [decodeParts]
    refine Decoder.record_reads (by simp) (by simp) fun m hm => ?_
    rw [hm.required_eq "options" (Decoder.listOf_reads options fun o _ => o.decode_reads)
        (by simp),
      hm.optional_eq "default" (Decoder.nullable_reads Decoder.text_reads initial) (by simp),
      hm.required_eq "display_fields"
        (Decoder.listOf_reads displayFields fun s _ => Decoder.text_reads s) (by simp)]
    rfl
  | autocomplete endpoint displayFields =>
    show (decodeParts .autocomplete).Reads _ (.object
      [("endpoint", .string endpoint), ("display_fields", .array (displayFields.map .string))]) _
    rw [decodeParts]
    refine Decoder.record_reads (by simp) (by simp) fun m hm => ?_
    rw [hm.required_eq "endpoint" (Decoder.text_reads endpoint) (by simp),
      hm.required_eq "display_fields"
        (Decoder.listOf_reads displayFields fun s _ => Decoder.text_reads s) (by simp)]
    rfl
  | checkbox initial =>
    show (decodeParts .checkbox).Reads _ (.object [("default", .bool initial)]) _
    rw [decodeParts]
    refine Decoder.record_reads (by simp) (by simp) fun m hm => ?_
    rw [hm.required_eq "default" (Decoder.bool_reads initial) (by simp)]
    rfl
  | dateRange start stop =>
    show (decodeParts .dateRange).Reads _ (.object
      [("from", (start.map fun d => .string d.text).getD .null),
        ("to", (stop.map fun d => .string d.text).getD .null)]) _
    rw [decodeParts]
    refine Decoder.record_reads (by simp) (by simp) fun m hm => ?_
    rw [hm.optional_eq "from" (Decoder.nullable_reads Date.decode_reads start) (by simp),
      hm.optional_eq "to" (Decoder.nullable_reads Date.decode_reads stop) (by simp)]
    rfl
  | none =>
    intro f hf
    obtain ⟨members, -, rfl, -, -⟩ := Fragment.spells_object_iff.mp hf
    rfl

/-- **Reading back a widget.** Every spelling of a written widget is read as the widget. -/
theorem decode_reads (w : Widget) :
    Widget.decode.Reads ⟨depth + 3, buffered⟩ w.encode w := by
  intro f hf
  rw [encode, members_eq] at hf
  obtain ⟨g, hsplit, hg⟩ : ∃ g, split ⟨depth + 3, buffered⟩ f = .ok (w.kind, g) ∧
      g.Spells (.object w.parts) :=
    split_of_spells hf fun part hpart =>
      ⟨ne_widget_of_mem_parts part hpart, w.readable_members part (List.mem_of_mem_tail hpart)⟩
  simp only [decode, hsplit, bind, Except.bind]
  exact w.decodeParts_reads g hg

end Widget

end DataGrid
