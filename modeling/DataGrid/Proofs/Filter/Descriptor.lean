import DataGrid.Proofs.Filter.State
import DataGrid.Proofs.Filter.Widget
import DataGrid.Filter.Config

/-!
# Descriptors that are read back

The members of a widget stand among those of its descriptor. No name is both a descriptor's and a
widget's, so a descriptor takes its own members, and what it keeps spells the widget. Thus a written
filter holds its descriptors, whether they are read from the text or from a free value.

## Main results

* `FilterDescriptor.decode_reads`: written descriptors are read back
* `FilterConfig.decode_columns_toText`: a written filter holds its descriptors
-/

namespace DataGrid

open Json

theorem SortStatus.decode_reads {site : Site} (s : SortStatus) :
    SortStatus.decode.Reads site (.string s.name) s :=
  Decoder.choice_reads (by cases s <;> rfl)

namespace FilterDescriptor

variable {depth : Nat} {buffered : Bool}

/-- The names of a descriptor's own members. -/
def ownNames : List String := ["name", "field_path", "label_key", "displayed", "mandatory", "sort"]

theorem notMem_ownNames_of_mem_members {w : Widget} :
    ∀ member ∈ w.members, member.1 ∉ ownNames := by
  cases w <;> simp [Widget.members, ownNames]

/-- The members of a descriptor. -/
def members (d : FilterDescriptor) : List (String × Json) :=
  [("name", .string d.name), ("field_path", .string d.fieldPath),
    ("label_key", .string d.labelKey)] ++ d.widget.members ++
  [("displayed", .bool d.displayed), ("mandatory", .bool d.mandatory),
    ("sort", .string d.sort.name)]

theorem nodup_members (d : FilterDescriptor) : (d.members.map Prod.fst).Nodup := by
  cases h : d.widget <;> simp [members, Widget.members, h]

theorem readable_encode (d : FilterDescriptor) : Readable (depth + 3) d.encode := by
  refine .object d.nodup_members ?_
  rw [List.forall_mem_append, List.forall_mem_append]
  refine ⟨⟨?_, d.widget.readable_members⟩, ?_⟩
  · simp [Readable.string]
  · simp [Readable.string, Readable.bool]

/-- What is not a descriptor's own is its widget's. -/
theorem filter_notMem_members (d : FilterDescriptor) :
    d.members.filter (·.1 ∉ ownNames) = d.widget.members := by
  have hwidget : d.widget.members.filter (·.1 ∉ ownNames) = d.widget.members :=
    List.filter_eq_self.mpr fun member hmember =>
      decide_eq_true (notMem_ownNames_of_mem_members member hmember)
  rw [members, List.filter_append, List.filter_append, hwidget]
  simp [ownNames]

/-- **Reading back a descriptor.** Every spelling of a written descriptor is read as the
descriptor. -/
theorem decode_reads (d : FilterDescriptor) :
    FilterDescriptor.decode.Reads ⟨depth + 3, buffered⟩ d.encode d := by
  refine Decoder.openRecord_reads d.nodup_members (fun member hmember hname => ?_)
    fun m hm hothers => ?_
  · -- what is not a descriptor's own is held, as it is written for the widget
    have hkept : member ∈ d.members.filter (·.1 ∉ ownNames) :=
      List.mem_filter.mpr ⟨hmember, decide_eq_true hname⟩
    rw [filter_notMem_members] at hkept
    exact d.widget.readable_members member hkept
  · -- the object of what was kept is read where the descriptor stands, one level further out
    have hwidget : Widget.decode ⟨m.site.depth + 1, true⟩ (.object m.others none) =
        .ok d.widget := by
      rw [hm.site_eq]
      refine d.widget.decode_reads _ ?_
      rw [Widget.encode, ← filter_notMem_members]
      exact hothers
    rw [hwidget, hm.required_eq "name" (Decoder.text_reads d.name) (by simp),
      hm.required_eq "field_path" (Decoder.text_reads d.fieldPath) (by simp),
      hm.required_eq "label_key" (Decoder.text_reads d.labelKey) (by simp),
      hm.required_eq "displayed" (Decoder.bool_reads d.displayed) (by simp),
      hm.required_eq "mandatory" (Decoder.bool_reads d.mandatory) (by simp),
      hm.required_eq "sort" d.sort.decode_reads (by simp)]
    rfl

end FilterDescriptor

namespace FilterConfig

variable {ε : Type}

theorem readable_encode {depth : Nat} (config : FilterConfig ε) :
    Readable (depth + 5) config.encode := by
  refine .object (by simp) fun member hmember => ?_
  obtain rfl := List.mem_singleton.mp hmember
  exact .array_map fun d _ => d.readable_encode

/-- The free value of a written filter holds a spelling of each descriptor. -/
theorem exists_any_written (config : FilterConfig ε) :
    ∃ columns, Decoder.any {} (.written config.encode) =
        .ok (.object [("columns", .array columns)]) ∧
      List.Forall₂ Fragment.Spells (Fragment.ofItems columns)
        (config.descriptors.map FilterDescriptor.encode) := by
  have hreadable : ∀ item ∈ config.descriptors.map FilterDescriptor.encode,
      Readable 125 item := List.forall_mem_map.mpr fun d _ => d.readable_encode
  -- each column is read by itself; the object around the array has one member and stays as it is
  obtain ⟨columns, hcolumns, hspells⟩ := ofFragments_of_spells
    (Fragment.forall₂_spells_writtenItems fun item hitem =>
      Fragment.spells_written (hreadable item hitem))
    fun item hitem _ => ofFragment_of_spells (hreadable item hitem)
  refine ⟨columns, ?_, hspells⟩
  have harray : ofFragment 126 (.written (.array (config.descriptors.map FilterDescriptor.encode))) =
      .ok (.array columns) := by
    rw [Fragment.written, ofFragment, hcolumns]
    rfl
  rw [encode, Fragment.written, Fragment.writtenMembers, Fragment.writtenMembers]
  show ofFragment 127 _ = _
  rw [ofFragment, ofMembers, Quoted.written_chars, harray]
  rfl

/-- **Nothing is lost.** The text of a filter is read as an object whose columns are read as the
descriptors of the filter, one by one. They are also read from the text at once. -/
theorem decode_columns_toText (config : FilterConfig ε) :
    (∃ columns, Json.decode Decoder.any config.toText =
        .ok (.object [("columns", .array columns)]) ∧
      columns.mapM (decodeJson FilterDescriptor.decode) = .ok config.descriptors) ∧
    Json.decode (Decoder.record ["columns"] fun m =>
      m.required "columns" (Decoder.listOf FilterDescriptor.decode)) config.toText =
        .ok config.descriptors := by
  have hreadable : Readable 127 config.encode := config.readable_encode
  have hdecode : ∀ {α : Type} (decoder : Decoder α),
      Json.decode decoder config.toText = decoder {} (.written config.encode) :=
    fun decoder => decode_text decoder (isWhole_of_readable hreadable)
  constructor
  · -- the members of each column were sorted when it was read
    obtain ⟨columns, hcolumns, hspells⟩ := config.exists_any_written
    have hread : (Fragment.ofItems columns).mapM (FilterDescriptor.decode {}) =
        .ok config.descriptors := Decoder.mapM_of_spells (fun d _ => d.decode_reads) hspells
    rw [Fragment.ofItems_eq_map, List.mapM_map] at hread
    exact ⟨columns, by rw [hdecode, hcolumns], hread⟩
  · rw [hdecode]
    refine Decoder.record_reads (by simp) (by simp) (fun m hm => ?_) _
      (Fragment.spells_written hreadable)
    exact hm.required_eq "columns" (Decoder.listOf_reads config.descriptors fun d _ =>
      d.decode_reads) (by simp)

end FilterConfig

end DataGrid
