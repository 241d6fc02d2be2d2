import DataGrid.Filter.State
import DataGrid.Proofs.Json.Decoder

/-!
# Filter states as texts

A state that is read is sorted, and a written state is read back.

## Main definitions

* `FilterState.ReadBack`: the free values of a state are read back as they are
* `FilterState.hidingOnly`: a state that hides one column

## Main results

* `FilterState.sorted_of_decode`: a state that is read is sorted
* `FilterState.mem_hiddenColumns`: a column is hidden just where its state is not displayed
* `FilterState.decode_toText`: a written state is read back
-/

namespace DataGrid

open Json

theorem SortStatus.decode_written (s : SortStatus) (site : Site) :
    SortStatus.decode site (.written (.string s.name)) = .ok s :=
  Decoder.choice_written (by cases s <;> rfl) site

/-- A written column state is read back if its free value is. -/
theorem ColumnState.decode_written {s : ColumnState} {depth : Nat} {buffered : Bool}
    (hvalue : ofFragment depth (.written s.value) = .ok s.value) :
    ColumnState.decode ⟨depth + 1, buffered⟩ (.written s.encode) = .ok s := by
  refine Decoder.record_written (by simp) (by simp) ?_
  rw [Members.withDefault_written (.bool s.displayed) rfl rfl rfl,
    Members.withDefault_written (.bool s.filtered) rfl rfl rfl,
    Members.withDefault_written s.value rfl rfl hvalue,
    Members.withDefault_written (.string s.sort.name) rfl rfl
      (s.sort.decode_written ⟨depth, buffered⟩)]
  rfl

namespace FilterState

variable {state : FilterState}

/-! ## States that are read -/

/-- The columns of a state that is read were read as members of an object inside it. -/
theorem exists_of_decode {text : String} (h : Json.decode decode text = .ok state) :
    ∃ f, Decoder.mapOf ColumnState.decode ⟨126, false⟩ f = .ok state.columns := by
  obtain ⟨m, henter, hbuild⟩ := Decoder.exists_of_record (eq_ok_of_decode h)
  obtain ⟨columns, hcolumns, rfl⟩ := Reading.map_eq_value hbuild
  rw [Except.ok.inj henter]
  exact Members.exists_of_required hcolumns

/-- A state that is read is sorted. -/
theorem sorted_of_decode {text : String} (h : Json.decode decode text = .ok state) :
    Dictionary.Sorted state.columns := by
  obtain ⟨f, hf⟩ := exists_of_decode h
  exact Decoder.sorted_of_mapOf hf

/-- **Hidden columns.** A column is hidden just where its state is not displayed. -/
theorem mem_hiddenColumns (hsorted : Dictionary.Sorted state.columns) (name : String) :
    name ∈ state.hiddenColumns ↔
      ∃ column, state.column? name = some column ∧ column.displayed = false := by
  rw [hiddenColumns, Dictionary.mem_namesWhere hsorted]
  simp only [Bool.not_eq_true', column?]

/-! ## Written states -/

/-- The free values of the state have whole numbers and are read back as they are. They stand
inside the state, its columns and one of these. -/
def ReadBack (state : FilterState) : Prop :=
  ∀ entry ∈ state.columns,
    isWhole entry.2.value ∧ ofFragment 124 (.written entry.2.value) = .ok entry.2.value

theorem isWhole_encode (h : state.ReadBack) : isWhole state.encode := by
  have hcolumn : ∀ entry ∈ state.columns, isWhole entry.2.encode := fun entry hentry => by
    simp [ColumnState.encode, isWhole, haveWhole, (h entry hentry).1]
  rw [encode, isWhole, haveWhole, haveWhole, Bool.and_true, isWhole, haveWhole_iff]
  intro member hmember
  obtain ⟨entry, hentry, rfl⟩ := List.mem_map.mp hmember
  exact hcolumn entry hentry

/-- **Reading back a state.** A written state is read back. -/
theorem decode_toText (hsorted : Dictionary.Sorted state.columns) (h : state.ReadBack) :
    Json.decode decode state.toText = .ok state := by
  -- the text is cut and built back into the fragment of the state, which is then decoded
  rw [toText, decode_text decode (isWhole_encode h)]
  refine Decoder.record_written (by simp) (by simp) ?_
  rw [Members.required_written _ rfl rfl (Decoder.mapOf_written hsorted fun entry hentry =>
    ColumnState.decode_written (h entry hentry).2)]
  rfl

/-- A selection that says nothing but that a column is hidden. -/
def hidingOnly (name : String) : FilterState := ⟨[(name, {})]⟩

theorem readBack_hidingOnly (name : String) : (hidingOnly name).ReadBack := by
  intro entry hentry
  obtain rfl := List.mem_singleton.mp hentry
  exact ⟨rfl, rfl⟩

end FilterState

end DataGrid
