import DataGrid.Proofs.Formatter.Anchor
import DataGrid.Proofs.Markup.WrittenForm

/-!
# Lists as plain text

A list is written item by item, each escaped by itself, while its plain text is put together first
and escaped as a whole. Escaping a text is escaping its parts, at every depth, so both ways agree on
items that are written as their plain text. Links are longer than their plain text, and so is the
placeholder for an empty item. As no item is shorter, nothing makes up for them.

## Main results

* `Markup.escape_intercalate`: texts that are put together are escaped one by one
* `renderItem_eq_escape_iff`: which items are written as their plain text
* `Formatter.apply_list_eq_apply_plain_iff`: which lists are written as their plain text
* `Formatter.apply_list_eq_apply_plain`: lists and plain values agree where both apply
-/

namespace DataGrid

open Markup

/-! ## Texts with a separator -/

section Intercalate

variable {α ι : Type} {f g : ι → List α} {items : List ι} (separator : List α)

theorem Text.length_intercalate_map_le (h : ∀ item ∈ items, (g item).length ≤ (f item).length) :
    (separator.intercalate (items.map g)).length ≤
      (separator.intercalate (items.map f)).length := by
  induction items with
  | nil => exact le_rfl
  | cons item items ih =>
    obtain ⟨hitem, hitems⟩ := List.forall_mem_cons.mp h
    cases items with
    | nil => simpa using hitem
    | cons next rest =>
      have hrest := ih hitems
      simp only [List.map_cons, List.intercalate_cons_cons, List.length_append] at hrest ⊢
      omega

/-- **Texts that are not shorter.** Where no text is shorter than the one in its place, both make
the same with a separator just where all of them are the same. -/
theorem Text.intercalate_map_eq_iff (h : ∀ item ∈ items, (g item).length ≤ (f item).length) :
    separator.intercalate (items.map f) = separator.intercalate (items.map g) ↔
      ∀ item ∈ items, f item = g item := by
  constructor
  · intro heq
    induction items with
    | nil => exact fun _ hitem => nomatch hitem
    | cons item items ih =>
      obtain ⟨hitem, hitems⟩ := List.forall_mem_cons.mp h
      cases items with
      | nil => simpa using heq
      | cons next rest =>
        -- neither the first texts nor the others differ in length, as their lengths add up alike
        have hrest := Text.length_intercalate_map_le separator hitems
        have hlength := congrArg List.length heq
        simp only [List.map_cons, List.intercalate_cons_cons, List.length_append,
          List.append_assoc] at heq hlength hrest ih
        obtain ⟨hfirst, hothers⟩ := List.append_inj heq (by omega)
        exact List.forall_mem_cons.mpr ⟨hfirst, ih hitems (List.append_cancel_left hothers)⟩
  · exact fun heq => congrArg separator.intercalate (List.map_congr_left heq)

end Intercalate

theorem Markup.escape_empty : escape "" = "" := by decide

/-- Texts that are put together are escaped one by one, and so is what stands between them. -/
theorem Markup.escape_intercalate (separator : String) (texts : List String) :
    escape (separator.intercalate texts) =
      (escape separator).intercalate (texts.map escape) := by
  induction texts with
  | nil => rw [List.map_nil, String.intercalate_nil, String.intercalate_nil, escape_empty]
  | cons text texts ih =>
    cases texts with
    | nil => rw [List.map_singleton, String.intercalate_singleton, String.intercalate_singleton]
    | cons next rest =>
      rw [List.map_cons] at ih
      rw [String.intercalate_cons_cons, escape_append, escape_append, ih, List.map_cons,
        List.map_cons, String.intercalate_cons_cons]

/-! ## Items -/

namespace Value

theorem plainTexts_eq_map (items : List Value) : plainTexts items = items.map plainText := by
  induction items with
  | nil => rfl
  | cons item items ih => rw [plainTexts, ih, List.map_cons]

/-- What is empty has no text. -/
theorem plainText_of_isEmpty {v : Value} (h : v.isEmpty) : v.plainText = "" := by
  cases v with
  | null => rfl
  | text s => exact String.isEmpty_iff.mp h
  | list items =>
    obtain rfl := List.isEmpty_iff.mp h
    rfl
  | bool | integer | decimal | date | dateTime | ref => cases h

/-- **Plain text of a list.** It is escaped item by item. -/
theorem escape_plainText_list (items : List Value) :
    escape (list items).plainText =
      ", ".intercalate (items.map fun item => escape item.plainText) := by
  have hcomma : escape ", " = ", " := by decide
  rw [plainText, plainTexts_eq_map, escape_intercalate, hcomma, List.map_map]
  rfl

end Value

section Items

variable (v : Value) (ctx : Context)

/-- A link is longer than its label. -/
theorem length_escape_plainText_lt {v : Value} (h : v.isLink) :
    (escape v.plainText).length < (renderItem v ctx).length := by
  obtain ⟨id, label, url, rfl⟩ := Value.exists_of_isLink h
  have hstart : "<a href=\"".length = 9 := rfl
  rw [Value.plainText, renderItem]
  simp only [String.length_append, hstart]
  omega

/-- **Items as plain text.** All but links and empty items are written as their plain text. Empty
ones are if the placeholder is empty. -/
theorem renderItem_eq_escape_iff :
    renderItem v ctx = escape v.plainText ↔
      ¬ v.isLink ∧ (v.isEmpty → ctx.settings.emptyPlaceholder = "") := by
  by_cases hlink : v.isLink
  · refine iff_of_false (fun heq => ?_) fun h => h.1 hlink
    exact absurd (congrArg String.length heq) (length_escape_plainText_lt ctx hlink).ne'
  · rw [renderItem_of_not_isLink hlink, renderPlain, and_iff_right hlink]
    split
    · rename_i hempty
      rw [Value.plainText_of_isEmpty hempty, escape_empty, Context.empty]
      exact ⟨fun h _ => h, fun h => h hempty⟩
    · rename_i hsome
      exact iff_of_true rfl fun h => absurd h hsome

/-- No item is shorter than its plain text. -/
theorem length_escape_plainText_le :
    (escape v.plainText).length ≤ (renderItem v ctx).length := by
  by_cases hlink : v.isLink
  · exact (length_escape_plainText_lt ctx hlink).le
  · rw [renderItem_of_not_isLink hlink, renderPlain]
    split
    · rename_i hempty
      rw [Value.plainText_of_isEmpty hempty, escape_empty]
      exact Nat.zero_le _
    · exact le_rfl

end Items

/-! ## Lists -/

namespace Formatter

variable {ρ : Type} (row : ρ) {items : List Value} {ctx : Context}

theorem apply_list_of_ne_nil (hne : items ≠ []) :
    (list : Formatter ρ).apply row (.list items) ctx =
      ctx.settings.listSeparator.intercalate (items.map (renderItem · ctx)) := by
  obtain ⟨first, rest, rfl⟩ := List.exists_cons_of_ne_nil hne
  rfl

theorem apply_plain_of_ne_nil (hne : items ≠ []) :
    (plain : Formatter ρ).apply row (.list items) ctx =
      ", ".intercalate (items.map fun item => escape item.plainText) := by
  have hsome : ¬ (Value.list items).isEmpty := fun h => hne (List.isEmpty_iff.mp h)
  rw [apply, renderPlain, if_neg hsome, Value.escape_plainText_list]

/-- **Lists as plain text.** A list of items with commas between them is written as its plain text
just where each item is. -/
theorem apply_list_eq_apply_plain_iff (hne : items ≠ [])
    (hseparator : ctx.settings.listSeparator = ", ") :
    (list : Formatter ρ).apply row (.list items) ctx =
        (plain : Formatter ρ).apply row (.list items) ctx ↔
      ∀ item ∈ items, ¬ item.isLink ∧
        (item.isEmpty → ctx.settings.emptyPlaceholder = "") := by
  have hlength : ∀ item ∈ items,
      (escape item.plainText).toList.length ≤ (renderItem item ctx).toList.length := by
    intro item _
    rw [String.length_toList, String.length_toList]
    exact length_escape_plainText_le item ctx
  rw [apply_list_of_ne_nil row hne, apply_plain_of_ne_nil row hne, hseparator,
    ← String.toList_inj, String.toList_intercalate, String.toList_intercalate, List.map_map,
    List.map_map]
  refine (Text.intercalate_map_eq_iff ", ".toList hlength).trans ?_
  simp only [String.toList_inj, renderItem_eq_escape_iff]

/-- **Lists and plain values agree** where both apply: with commas between items, a list whose
items are neither empty nor links is written alike as a list and as plain text, whatever is nested
in its items. With a placeholder that is not empty, no other list is. -/
theorem apply_list_eq_apply_plain (hne : items ≠ [])
    (hseparator : ctx.settings.listSeparator = ", ") :
    ((∀ item ∈ items, ¬ item.isEmpty ∧ ¬ item.isLink) →
        (list : Formatter ρ).apply row (.list items) ctx =
          (plain : Formatter ρ).apply row (.list items) ctx) ∧
      (ctx.settings.emptyPlaceholder ≠ "" →
        (list : Formatter ρ).apply row (.list items) ctx =
            (plain : Formatter ρ).apply row (.list items) ctx →
          ∀ item ∈ items, ¬ item.isEmpty ∧ ¬ item.isLink) := by
  rw [apply_list_eq_apply_plain_iff row hne hseparator]
  constructor
  · exact fun h item hitem => ⟨(h item hitem).2, fun hempty => absurd hempty (h item hitem).1⟩
  · intro hplaceholder h item hitem
    obtain ⟨hlink, hempty⟩ := h item hitem
    exact ⟨fun hitemEmpty => hplaceholder (hempty hitemEmpty), hlink⟩

/-- A nested list with an empty item, a text with special characters and a reference without an
address are written alike. With an address in it, the reference is a link in the list only. -/
theorem apply_list_nestedItems :
    (list : Formatter Unit).apply () (.list [.list [.text "<b>", .null], .text "R&D",
        .ref ⟨7, "Bea", none⟩]) ⟨{}, .echo⟩ =
      (plain : Formatter Unit).apply () (.list [.list [.text "<b>", .null], .text "R&D",
        .ref ⟨7, "Bea", none⟩]) ⟨{}, .echo⟩ ∧
    (plain : Formatter Unit).apply () (.list [.list [.text "<b>", .null], .text "R&D",
        .ref ⟨7, "Bea", none⟩]) ⟨{}, .echo⟩ = "&lt;b&gt;, , R&amp;D, Bea" ∧
    (list : Formatter Unit).apply () (.list [.ref ⟨7, "Bea", some "/actor/7/view"⟩])
        ⟨{}, .echo⟩ ≠
      (plain : Formatter Unit).apply () (.list [.ref ⟨7, "Bea", some "/actor/7/view"⟩])
        ⟨{}, .echo⟩ := by
  refine ⟨?_, by decide +kernel, fun heq => ?_⟩
  · exact (apply_list_eq_apply_plain () (by simp) rfl).1 (by simp [Value.isEmpty, Value.isLink])
  · have hitems := (apply_list_eq_apply_plain () (by simp) rfl).2 (by decide) heq
    exact (hitems _ (List.mem_singleton_self _)).2 rfl

end Formatter

end DataGrid
