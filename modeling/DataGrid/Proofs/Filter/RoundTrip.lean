import DataGrid.Proofs.Filter.Config
import DataGrid.Proofs.Json.FreeValue

/-!
# Saved selections

Whatever text a selection was read from, the free values it holds are in one form, and stand so
far inside that they are written and read at the same depth. So a selection without doubles is
saved and loaded as it is.

## Main results

* `FilterState.canonical_of_decode`: the form of the free values that are read
* `FilterConfig.read_toText_of_read`: an accepted selection is accepted again
-/

namespace DataGrid

open Json

/-- The free value of a column state stands in it, and is canonical. -/
theorem ColumnState.canonical_of_decode {site : Site} {f : Fragment} {s : ColumnState}
    (h : decode site f = .ok s) : ∃ depth, site.depth = depth + 1 ∧ Canonical depth s.value := by
  obtain ⟨m, henter, hbuild⟩ := Decoder.exists_of_record h
  refine ⟨m.site.depth, Site.depth_of_enter henter, ?_⟩
  -- of the four members that are read, the value is the third
  obtain ⟨_, sort, hthree, -, hsort⟩ := Reading.seq_eq_value hbuild
  obtain ⟨_, value, htwo, hread, hvalue⟩ := Reading.seq_eq_value hthree
  obtain ⟨_, filtered, hone, -, hfiltered⟩ := Reading.seq_eq_value htwo
  obtain ⟨displayed, -, hdisplayed⟩ := Reading.map_eq_value hone
  subst hdisplayed hfiltered hvalue hsort
  rcases Members.exists_of_withDefault hread with ⟨g, hg⟩ | hnull
  · exact canonical_of_ofFragment g _ _ hg
  · -- a value that was left out is null
    rw [hnull]
    exact .null _

namespace FilterState

variable {state : FilterState}

/-- **Free values that are read.** They are canonical three levels inside the text. -/
theorem canonical_of_decode {text : String} (h : Json.decode decode text = .ok state) :
    ∀ entry ∈ state.columns, Canonical 124 entry.2.value := by
  obtain ⟨f, hf⟩ := exists_of_decode h
  obtain ⟨inner, henter, hcolumns⟩ := Decoder.exists_of_mapOf hf
  intro entry hentry
  obtain ⟨g, hg⟩ := hcolumns entry hentry
  obtain ⟨depth, hdepth, hvalue⟩ := ColumnState.canonical_of_decode hg
  -- a column state is inside the columns, which are inside the state
  obtain rfl : depth = 124 := by
    have hinner : 126 = inner.depth + 1 := Site.depth_of_enter henter
    omega
  exact hvalue

/-- What was read is read back, if its numbers are whole. -/
theorem readBack_of_decode {text : String} (h : Json.decode decode text = .ok state)
    (hwhole : ∀ entry ∈ state.columns, isWhole entry.2.value) : state.ReadBack :=
  fun entry hentry => ⟨hwhole entry hentry,
    ofFragment_written (canonical_of_decode h entry hentry) (hwhole entry hentry)⟩

end FilterState

namespace FilterConfig

variable {ε : Type} {config : FilterConfig ε} {state : FilterState} {text : String}

/-- **Saving and loading.** A selection that was accepted, from a text of any spelling, and whose
free values hold no doubles, is accepted again in its written form. It is read as it was, and
written as before. -/
theorem read_toText_of_read (hread : config.read text = .ok state)
    (hwhole : ∀ entry ∈ state.columns, isWhole entry.2.value) :
    config.read state.toText = .ok state ∧
      (config.read state.toText).map FilterState.toText = .ok state.toText := by
  obtain ⟨hdecode, hnames⟩ := read_eq_ok_iff.mp hread
  have hagain : config.read state.toText = .ok state :=
    read_toText (sorted_of_read hread) (FilterState.readBack_of_decode hdecode hwhole) hnames
  exact ⟨hagain, by rw [hagain]; rfl⟩

/-! ### A text of another spelling -/

/-- A filter of one column. -/
def riskFilter : FilterConfig Unit where
  descriptors := [FilterDescriptor.new "risk" "risk" "label.risk" (.checkbox false)]
  postQueries := []

/-- A selection for the column whose free value is an object. -/
def riskState : FilterState :=
  ⟨[("risk", { value := .object [("a", .string "😀"), ("b", .int 18446744073709551615)]
               sort := .descending })]⟩

/-- A text of the selection: the state is an array, the column is named twice and its name
escaped, one member is unknown, one is repeated, and two are left out. -/
def riskText : String :=
  "[\x7b\"risk\":[true],\"\\u0072isk\":\x7b\"x\":1.5, \"sort\":\"DESC\",\"value\":\x7b\"b\":0," ++
    "\"a\":\"\\ud83d\\ude00\",\"b\":18446744073709551615\x7d\x7d\x7d]"

theorem tokens_riskText : tokens riskText.toList =
    [.openArray, .openObject, .string (.ofText "risk"), .colon, .openArray, .bool true,
      .closeArray, .comma, .string ⟨[.unit 0x72, .char 'i', .char 's', .char 'k'], none⟩, .colon,
      .openObject, .string (.ofText "x"), .colon, .number ['1', '.', '5'], .comma,
      .string (.ofText "sort"), .colon, .string (.ofText "DESC"), .comma,
      .string (.ofText "value"), .colon, .openObject, .string (.ofText "b"), .colon,
      .number ['0'], .comma, .string (.ofText "a"), .colon,
      .string ⟨[.unit 0xd83d, .unit 0xde00], none⟩, .comma, .string (.ofText "b"), .colon,
      .number "18446744073709551615".toList, .closeObject, .closeObject, .closeObject,
      .closeArray] := by
  rw [tokens_eq_tokensWithin 150 (by decide +kernel)]
  decide +kernel

theorem read_riskText : riskFilter.read riskText = .ok riskState := by
  refine read_eq_ok_iff.mpr ⟨?_, ?_⟩
  · rw [decode, Document.ofText, tokens_riskText]
    rfl
  · intro entry hentry
    obtain rfl := List.mem_singleton.mp hentry
    exact ⟨_, List.mem_cons_self, rfl⟩

/-- The selection is written plainly, with what was left out and without what was passed over, and
read again. -/
theorem read_toText_riskState :
    riskFilter.read riskText = .ok riskState ∧
      riskState.toText = "\x7b\"columns\":\x7b\"risk\":\x7b\"displayed\":false," ++
        "\"filtered\":false,\"value\":\x7b\"a\":\"😀\",\"b\":18446744073709551615\x7d," ++
          "\"sort\":\"DESC\"\x7d\x7d\x7d" ∧
        riskFilter.read riskState.toText = .ok riskState ∧
          (riskFilter.read riskState.toText).map FilterState.toText = .ok riskState.toText := by
  have hwhole : ∀ entry ∈ riskState.columns, isWhole entry.2.value := by decide
  exact ⟨read_riskText, by decide, read_toText_of_read read_riskText hwhole⟩

end FilterConfig

end DataGrid
