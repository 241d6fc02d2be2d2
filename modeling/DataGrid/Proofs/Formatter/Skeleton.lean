import DataGrid.Proofs.Markup.Skeleton
import DataGrid.View.PortfolioEntry
import Mathlib.Data.List.Forall2

/-!
# Text does not change the skeleton of markup

Formatters escape text where it enters markup. So where tags and attribute values begin and end is
a matter of the settings, of templates and of the shape of values, and no text has a say in it: two
runs on values that differ in nothing but texts write markup of one skeleton.

## Main definitions

* `Value.SameShape`: values that differ in nothing but texts
* `Formatter.ofValues`: the formatters that write the value itself

## Main results

* `skeleton_renderPlain_eq`, `skeleton_renderItem_eq`: the markup of values of one shape
* `Formatter.skeleton_apply_eq`: formatters on values of one shape
* `Formatter.skeleton_stringFormat`, `Formatter.skeleton_linkWithConfirmation`: links have the
  skeleton of their template
* `Formatter.skeleton_apply_eq_of_sameShape`: all formatters and the label of a status
-/

namespace DataGrid

open Markup

/-- **One shape.** The values are equal but for texts, and for the labels and addresses of
references. A text is empty in both or in neither, and so an address is there or not. -/
inductive Value.SameShape : Value → Value → Prop
  | null : SameShape .null .null
  | text {s t : String} (h : s.isEmpty = t.isEmpty) : SameShape (.text s) (.text t)
  | bool (b : Bool) : SameShape (.bool b) (.bool b)
  | integer (n : Int64) : SameShape (.integer n) (.integer n)
  | decimal (d : Numeric.Decimal) : SameShape (.decimal d) (.decimal d)
  | date (d : Calendar.Date) : SameShape (.date d) (.date d)
  | dateTime (t : Calendar.DateTime) : SameShape (.dateTime t) (.dateTime t)
  | ref (id : Int64) {label label' : String} {url url' : Option String}
      (h : url.isSome = url'.isSome) : SameShape (.ref ⟨id, label, url⟩) (.ref ⟨id, label', url'⟩)
  | list {items items' : List Value} (h : List.Forall₂ SameShape items items') :
      SameShape (.list items) (.list items')

variable {v w : Value}

theorem Value.SameShape.isEmpty_eq (h : v.SameShape w) : v.isEmpty = w.isEmpty := by
  cases h with
  | text h => exact h
  | list h => cases h <;> rfl
  | null | bool | integer | decimal | date | dateTime | ref => rfl

/-! ## Markup of values -/

/-- Plain markup is the placeholder or has no skeleton. -/
theorem skeleton_renderPlain (v : Value) (ctx : Context) :
    skeleton (renderPlain v ctx) = if v.isEmpty then skeleton ctx.empty else [] := by
  rw [renderPlain]
  split
  · rfl
  · exact skeleton_escape _

theorem skeleton_renderPlain_eq (h : v.SameShape w) (ctx : Context) :
    skeleton (renderPlain v ctx) = skeleton (renderPlain w ctx) := by
  rw [skeleton_renderPlain, skeleton_renderPlain, h.isEmpty_eq]

/-- A link has its own skeleton, whatever its address and label. -/
theorem skeleton_renderItem_ref (id : Int64) (label url : String) (ctx : Context) :
    skeleton (renderItem (.ref ⟨id, label, some url⟩) ctx) = skeleton "<a href=\"\"></a>" := by
  simp only [renderItem, skeleton_append, skeleton_escape]
  decide

theorem skeleton_renderItem_eq (h : v.SameShape w) (ctx : Context) :
    skeleton (renderItem v ctx) = skeleton (renderItem w ctx) := by
  have hplain := skeleton_renderPlain_eq h ctx
  cases h with
  | @ref id label label' url url' hurl =>
    -- references are both linked or both plain
    cases url with
    | some url =>
      obtain ⟨url', rfl⟩ := Option.isSome_iff_exists.mp hurl.symm
      rw [skeleton_renderItem_ref, skeleton_renderItem_ref]
    | none =>
      obtain rfl := Option.isNone_iff_eq_none.mp (by simpa using hurl.symm)
      exact hplain
  | null | text | bool | integer | decimal | date | dateTime | list => exact hplain

/-- Items of one shape with a separator between them. -/
theorem skeleton_intercalate_renderItem_eq {items items' : List Value}
    (h : List.Forall₂ Value.SameShape items items') (separator : String) (ctx : Context) :
    skeleton (separator.intercalate (items.map (renderItem · ctx))) =
      skeleton (separator.intercalate (items'.map (renderItem · ctx))) := by
  have hitems : items.map (fun item => skeleton (renderItem item ctx)) =
      items'.map fun item => skeleton (renderItem item ctx) := by
    induction h with
    | nil => rfl
    | cons hitem _ ih => rw [List.map_cons, List.map_cons, skeleton_renderItem_eq hitem, ih]
  rw [skeleton_intercalate, skeleton_intercalate, List.map_map, List.map_map]
  exact congrArg _ hitems

/-- A label has its own skeleton, whatever the status. -/
theorem skeleton_statusLabel (status : ReportStatus) :
    skeleton (PortfolioEntryRow.statusLabel status) = skeleton "<span class=\"\"></span>" := by
  unfold PortfolioEntryRow.statusLabel
  simp only [skeleton_append, skeleton_escape, List.append_nil]
  decide +kernel

namespace Formatter

variable {ρ : Type}

/-- The formatters that write the value itself. -/
def ofValues : List (Formatter ρ) := [plain, boolean, date, number, list, reference, image]

/-- **Values of one shape** are written with one skeleton. -/
theorem skeleton_apply_eq (h : v.SameShape w) {f : Formatter ρ} (hf : f ∈ ofValues)
    (row row' : ρ) (ctx : Context) :
    skeleton (f.apply row v ctx) = skeleton (f.apply row' w ctx) := by
  have hplain := skeleton_renderPlain_eq h ctx
  have hitem := skeleton_renderItem_eq h ctx
  simp only [ofValues, List.mem_cons, List.not_mem_nil, or_false] at hf
  rcases hf with rfl | rfl | rfl | rfl | rfl | rfl | rfl
  · exact hplain
  · -- flags are the same in both values, and the markup of the settings stands for them
    cases h with
    | bool => rfl
    | null | text | integer | decimal | date | dateTime | ref | list => exact hplain
  · -- so are dates
    cases h with
    | date | dateTime => rfl
    | null | text | bool | integer | decimal | ref | list => exact hplain
  · -- and numbers
    cases h with
    | integer | decimal => rfl
    | null | text | bool | date | dateTime | ref | list => exact hplain
  · cases h with
    | list hitems =>
      cases hitems with
      | nil => exact hitem
      | cons hfirst hrest => exact skeleton_intercalate_renderItem_eq (.cons hfirst hrest) _ ctx
    | null | text | bool | integer | decimal | date | dateTime | ref => exact hitem
  · exact hitem
  · -- an image has its own skeleton, whatever its address
    cases h with
    | @text s t hempty =>
      simp only [apply, hempty]
      split
      · rfl
      · simp only [skeleton_append, skeleton_escape]
    | null | bool | integer | decimal | date | dateTime | ref | list => rfl

/-- **Templates for an address** are written with their own skeleton. -/
theorem skeleton_stringFormat (template : String) (url : ρ → String) (row : ρ) (v : Value)
    (ctx : Context) : skeleton ((stringFormat template url).apply row v ctx) = skeleton template :=
  skeleton_fillUrl template (skeleton_escape _)

/-- **Templates for a prompt and an address** are written with their own skeleton, even where the
prompt makes up another place for the address. -/
theorem skeleton_linkWithConfirmation (template key : String) (url : ρ → String) (row : ρ)
    (v : Value) (ctx : Context) :
    skeleton ((linkWithConfirmation template key url).apply row v ctx) = skeleton template := by
  rw [apply, skeleton_fillUrl _ (skeleton_escape _),
    skeleton_fillMessage _ (skeleton_escapeScript _)]

/-- **Text does not change the skeleton of markup.** Two runs of a formatter on values of one shape
write one skeleton. Links have the skeleton of their template, so it is the same for all addresses
and prompts, and labels of statuses have one skeleton for all names and classes. -/
theorem skeleton_apply_eq_of_sameShape :
    (∀ (v w : Value) (ctx : Context) (row row' : ρ), v.SameShape w → ∀ f ∈ ofValues,
        skeleton (f.apply row v ctx) = skeleton (f.apply row' w ctx)) ∧
      (∀ (url : ρ → String) (row : ρ) (v : Value) (ctx : Context),
        (∀ template, skeleton ((stringFormat template url).apply row v ctx) = skeleton template) ∧
          skeleton ((editLink url).apply row v ctx) = skeleton editTemplate ∧
          (∀ template key, skeleton ((linkWithConfirmation template key url).apply row v ctx) =
            skeleton template) ∧
          skeleton ((deleteLink url).apply row v ctx) = skeleton deleteTemplate) ∧
      ∀ (row row' : PortfolioEntryRow) (status status' : ReportStatus) (v w : Value)
        (ctx ctx' : Context),
        skeleton (PortfolioEntryRow.renderStatus { row with status := some status } v ctx) =
          skeleton
            (PortfolioEntryRow.renderStatus { row' with status := some status' } w ctx') := by
  refine ⟨fun v w ctx row row' h f hf => skeleton_apply_eq h hf row row' ctx,
    fun url row v ctx => ⟨?_, ?_, ?_, ?_⟩, fun row row' status status' v w ctx ctx' => ?_⟩
  · exact fun template => skeleton_stringFormat template url row v ctx
  · exact skeleton_stringFormat editTemplate url row v ctx
  · exact fun template key => skeleton_linkWithConfirmation template key url row v ctx
  · exact skeleton_linkWithConfirmation deleteTemplate deletePromptKey url row v ctx
  · exact (skeleton_statusLabel status).trans (skeleton_statusLabel status').symm

/-- Texts that would be markup if they were not escaped. -/
def markupTexts : Value := .list [.text "<b>", .ref ⟨.ofNat 1, "</a>", some "\" onclick='"⟩]

/-- The same value with words for texts. -/
def plainWords : Value := .list [.text "b", .ref ⟨.ofNat 1, "a", some "/1"⟩]

/-- A list of both kinds of texts has the skeleton of one link. -/
theorem skeleton_apply_markupTexts :
    markupTexts.SameShape plainWords ∧ list ∈ (ofValues : List (Formatter Unit)) ∧
      skeleton ((list : Formatter Unit).apply () markupTexts ⟨{}, .echo⟩) =
          skeleton ((list : Formatter Unit).apply () plainWords ⟨{}, .echo⟩) ∧
        skeleton ((list : Formatter Unit).apply () plainWords ⟨{}, .echo⟩) =
          ['<', '"', '"', '>', '<', '>'] := by
  have hshape : markupTexts.SameShape plainWords :=
    .list (.cons (.text rfl) (.cons (.ref _ rfl) .nil))
  have hlist : list ∈ (ofValues : List (Formatter Unit)) := by simp [ofValues]
  refine ⟨hshape, hlist, ?_, by decide +kernel⟩
  exact skeleton_apply_eq_of_sameShape.1 _ _ _ () () hshape _ hlist

end Formatter

end DataGrid
