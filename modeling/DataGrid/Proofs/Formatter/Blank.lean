import DataGrid.Proofs.Formatter.Anchor

/-!
# Blank cells

A cell should show the placeholder where it has nothing else to show. Whether there is something is
decided by the outermost part of a value, while its text is made of all parts: a reference with an
empty label counts as something, and so does a list, whatever its items are. So a cell is blank for
such a reference, and for a list whose only item has no text, and for no other value.

## Main definitions

* `Value.HasNoText`: values with an empty text
* `Value.IsBlank`: those of them that count as something
* `Value.soleItem`: what a list of one item is shown as

## Main results

* `Value.plainText_eq_empty_iff`: which values have an empty text
* `Formatter.apply_eq_empty_iff`: which values have blank cells
-/

namespace DataGrid

open Calendar Markup Numeric

/-! ## Texts -/

theorem Numeric.signed_ne_nil (n : Int) : signed n ≠ [] := by
  have hdigits : digits n.natAbs ≠ [] := Nat.toDigits_ne_nil
  rw [signed]
  split
  · exact List.cons_ne_nil _ _
  · exact hdigits

theorem Numeric.Decimal.chars_ne_nil (d : Decimal) : d.chars ≠ [] := by
  have hdigits : d.wholeDigits ≠ [] := Nat.toDigits_ne_nil
  rw [Decimal.chars]
  exact List.append_ne_nil_of_left_ne_nil (List.append_ne_nil_of_right_ne_nil _ hdigits) _

namespace Value

/-- **Values without text.** No value, an empty text or list, a reference with an empty label, and
a list whose only item has no text. Between several items there are commas. -/
inductive HasNoText : Value → Prop
  | null : HasNoText .null
  | text : HasNoText (.text "")
  | label (id : Int64) (url : Option String) : HasNoText (.ref ⟨id, "", url⟩)
  | nil : HasNoText (.list [])
  | single {item : Value} (h : HasNoText item) : HasNoText (.list [item])

/-- **Blank values.** They have no text, but count as something to show. -/
inductive IsBlank : Value → Prop
  | label (id : Int64) (url : Option String) : IsBlank (.ref ⟨id, "", url⟩)
  | single {item : Value} (h : HasNoText item) : IsBlank (.list [item])

/-- The item of a list of one item, and any other value itself. -/
def soleItem : Value → Value
  | .list [item] => item
  | v => v

/-- **Empty texts.** A value has an empty text just where none of its parts adds to it. -/
theorem plainText_eq_empty_iff : ∀ v : Value, v.plainText = "" ↔ v.HasNoText
  -- Recursion on the only item of a list. Any other value decides by itself.
  | .null => iff_of_true rfl .null
  | .text s => by
    rw [plainText]
    constructor
    · rintro rfl
      exact .text
    · rintro ⟨⟩
      rfl
  | .bool true => iff_of_false (by decide) nofun
  | .bool false => iff_of_false (by decide) nofun
  | .integer n => iff_of_false (mt String.ofList_eq_empty_iff.mp (signed_ne_nil _)) nofun
  | .decimal d => iff_of_false (mt String.ofList_eq_empty_iff.mp d.normalize.chars_ne_nil) nofun
  | .date d => by
    refine iff_of_false (mt String.ofList_eq_empty_iff.mp ?_) nofun
    simp [Date.chars]
  | .dateTime t => by
    refine iff_of_false (mt String.ofList_eq_empty_iff.mp ?_) nofun
    simp [DateTime.chars]
  | .ref ⟨id, label, url⟩ => by
    rw [plainText]
    constructor
    · rintro rfl
      exact .label id url
    · rintro ⟨⟩
      rfl
  | .list [] => iff_of_true rfl .nil
  | .list [item] => by
    rw [plainText, plainTexts, plainTexts, String.intercalate_singleton,
      plainText_eq_empty_iff item]
    constructor
    · exact .single
    · rintro ⟨⟩
      assumption
  | .list (first :: second :: rest) => by
    refine iff_of_false ?_ nofun
    rw [plainText, plainTexts, plainTexts, String.intercalate_cons_cons]
    simp

theorem isBlank_iff (v : Value) : v.IsBlank ↔ v.isEmpty = false ∧ v.HasNoText := by
  constructor
  · rintro (_ | h)
    · exact ⟨rfl, .label _ _⟩
    · exact ⟨rfl, .single h⟩
  · rintro ⟨hsome, _ | _ | _ | _ | h⟩
    · cases hsome
    · cases hsome
    · exact .label _ _
    · cases hsome
    · exact .single h

/-- The only item of a list has no text if the list has none. -/
theorem HasNoText.soleItem {v : Value} (h : v.HasNoText) : v.soleItem.HasNoText := by
  cases h with
  | null => exact .null
  | text => exact .text
  | label id url => exact .label id url
  | nil => exact .nil
  | single h => exact h

end Value

/-! ## Cells -/

theorem escape_eq_empty_iff (s : String) : escape s = "" ↔ s = "" :=
  escape_injective.eq_iff' (by decide)

section Cells

variable {ctx : Context} (hempty : ctx.settings.emptyPlaceholder ≠ "")

include hempty in
theorem renderPlain_eq_empty_iff (v : Value) : renderPlain v ctx = "" ↔ v.IsBlank := by
  rw [Value.isBlank_iff, renderPlain]
  cases v.isEmpty with
  | true => exact iff_of_false hempty (by simp)
  | false =>
    rw [if_neg Bool.false_ne_true, escape_eq_empty_iff, Value.plainText_eq_empty_iff,
      and_iff_right rfl]

/-- Values without text are shown by the placeholder, or count as something. -/
theorem renderPlain_of_hasNoText {v : Value} (h : v.HasNoText) (hblank : ¬ v.IsBlank) :
    renderPlain v ctx = ctx.settings.emptyPlaceholder := by
  rw [renderPlain]
  cases hsome : v.isEmpty with
  | true => rfl
  | false => exact absurd (v.isBlank_iff.mpr ⟨hsome, h⟩) hblank

/-- A link has its tags, whatever its label is. -/
theorem renderItem_ne_empty_of_isLink {v : Value} (h : v.isLink) : renderItem v ctx ≠ "" := by
  obtain ⟨id, label, url, rfl⟩ := Value.exists_of_isLink h
  rw [renderItem]
  simp [String.append_assoc]

include hempty in
theorem renderItem_eq_empty_iff (v : Value) :
    renderItem v ctx = "" ↔ v.IsBlank ∧ ¬ v.isLink := by
  by_cases hlink : v.isLink
  · exact iff_of_false (renderItem_ne_empty_of_isLink hlink) fun h => h.2 hlink
  · rw [renderItem_of_not_isLink hlink, renderPlain_eq_empty_iff hempty, and_iff_left hlink]

theorem renderItem_of_hasNoText {v : Value} (h : v.HasNoText) (hblank : ¬ v.IsBlank) :
    renderItem v ctx = ctx.settings.emptyPlaceholder := by
  have hlink : ¬ v.isLink := by
    intro hlink
    cases h with
    | label id url => exact hblank (.label id url)
    | null | text | nil | single => cases hlink
  rw [renderItem_of_not_isLink hlink, renderPlain_of_hasNoText h hblank]

end Cells

namespace Formatter

variable {ρ : Type} (row : ρ) (v : Value) {ctx : Context}

/-- A list of several items is shown with separators, and any other value as its only item. -/
theorem apply_list_cases (ctx : Context) :
    (∃ first second rest, v = .list (first :: second :: rest)) ∨
      (list : Formatter ρ).apply row v ctx = renderItem v.soleItem ctx := by
  cases v with
  | list items =>
    match items with
    | [] => exact .inr rfl
    | [item] =>
      have happly : (list : Formatter ρ).apply row (.list [item]) ctx =
          ctx.settings.listSeparator.intercalate [renderItem item ctx] := rfl
      rw [happly, String.intercalate_singleton]
      exact .inr rfl
    | first :: second :: rest => exact .inl ⟨first, second, rest, rfl⟩
  | null | text | bool | integer | decimal | date | dateTime | ref => exact .inr rfl

theorem apply_list_ne_empty (hseparator : ctx.settings.listSeparator ≠ "")
    (first second : Value) (rest : List Value) :
    (list : Formatter ρ).apply row (.list (first :: second :: rest)) ctx ≠ "" := by
  have happly : (list : Formatter ρ).apply row (.list (first :: second :: rest)) ctx =
      renderItem first ctx ++ ctx.settings.listSeparator ++
        ctx.settings.listSeparator.intercalate ((second :: rest).map (renderItem · ctx)) :=
    String.intercalate_cons_cons
  rw [happly]
  simp [hseparator]

theorem apply_list_eq_empty_iff (hempty : ctx.settings.emptyPlaceholder ≠ "")
    (hseparator : ctx.settings.listSeparator ≠ "") :
    (list : Formatter ρ).apply row v ctx = "" ↔ v.soleItem.IsBlank ∧ ¬ v.soleItem.isLink := by
  rcases apply_list_cases row v ctx with ⟨first, second, rest, rfl⟩ | hsole
  · refine iff_of_false (apply_list_ne_empty row hseparator first second rest) ?_
    rintro ⟨⟨⟩, -⟩
  · rw [hsole, renderItem_eq_empty_iff hempty]

theorem apply_list_of_hasNoText {v : Value} (h : v.HasNoText) (hblank : ¬ v.soleItem.IsBlank) :
    (list : Formatter ρ).apply row v ctx = ctx.settings.emptyPlaceholder := by
  rcases apply_list_cases row v ctx with ⟨first, second, rest, rfl⟩ | hsole
  · cases h
  · rw [hsole, renderItem_of_hasNoText h.soleItem hblank]

/-- **Blank cells.** With a placeholder and a separator that are not empty, a cell is empty just
where its value is blank and, for references and lists, is no link. A list of one item is shown as
its item. Any other value with an empty text is shown by the placeholder. -/
theorem apply_eq_empty_iff (ctx : Context) (hempty : ctx.settings.emptyPlaceholder ≠ "")
    (hseparator : ctx.settings.listSeparator ≠ "") :
    (((plain : Formatter ρ).apply row v ctx = "" ↔ v.IsBlank) ∧
        ((reference : Formatter ρ).apply row v ctx = "" ↔ v.IsBlank ∧ ¬ v.isLink) ∧
        ((list : Formatter ρ).apply row v ctx = "" ↔
          v.soleItem.IsBlank ∧ ¬ v.soleItem.isLink)) ∧
      (v.plainText = "" →
        (¬ v.IsBlank →
          (plain : Formatter ρ).apply row v ctx = ctx.settings.emptyPlaceholder ∧
            (reference : Formatter ρ).apply row v ctx = ctx.settings.emptyPlaceholder) ∧
          (¬ v.soleItem.IsBlank →
            (list : Formatter ρ).apply row v ctx = ctx.settings.emptyPlaceholder)) := by
  refine ⟨⟨?_, ?_, ?_⟩, fun htext => ?_⟩
  · exact renderPlain_eq_empty_iff hempty v
  · exact renderItem_eq_empty_iff hempty v
  · exact apply_list_eq_empty_iff row v hempty hseparator
  · have hnone := (Value.plainText_eq_empty_iff v).mp htext
    refine ⟨fun hblank => ⟨?_, ?_⟩, fun hblank => ?_⟩
    · exact renderPlain_of_hasNoText hnone hblank
    · exact renderItem_of_hasNoText hnone hblank
    · exact apply_list_of_hasNoText row hnone hblank

/-- With the usual settings, a list of one empty text is shown by nothing as plain text, and by the
placeholder as a list. -/
theorem apply_emptyItem :
    (plain : Formatter Unit).apply () (.list [.text ""]) ⟨{}, .echo⟩ = "" ∧
      (list : Formatter Unit).apply () (.list [.text ""]) ⟨{}, .echo⟩ =
        ({} : FormatSettings).emptyPlaceholder := by
  have hcells := apply_eq_empty_iff () (.list [.text ""]) ⟨{}, .echo⟩ (by decide) (by decide)
  have hblank : ¬ (Value.soleItem (.list [.text ""])).IsBlank := nofun
  exact ⟨hcells.1.1.mpr (.single .text), (hcells.2 (by decide +kernel)).2 hblank⟩

/-- A reference with an empty label. -/
def unlabelled : Value := .ref ⟨7, "", none⟩

/-- **Blank cells** of a reference with an empty label and of a list of one empty text, although
neither the usual placeholder nor the usual separator is empty. -/
theorem apply_unlabelled_eq_empty :
    (({} : FormatSettings).emptyPlaceholder ≠ "" ∧ ({} : FormatSettings).listSeparator ≠ "") ∧
      (plain : Formatter Unit).apply () unlabelled ⟨{}, .echo⟩ = "" ∧
      (reference : Formatter Unit).apply () unlabelled ⟨{}, .echo⟩ = "" ∧
      (list : Formatter Unit).apply () unlabelled ⟨{}, .echo⟩ = "" ∧
      (plain : Formatter Unit).apply () (.list [.text ""]) ⟨{}, .echo⟩ = "" := by
  decide +kernel

end Formatter

end DataGrid
