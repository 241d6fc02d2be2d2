import DataGrid.Markup.Script
import DataGrid.Markup.Template
import Mathlib.Tactic.SplitIfs
import Mathlib.Tactic.Tauto

/-!
# The skeleton of markup

Tags and attribute values begin and end at four characters. An escaped text has none of them, so
it can be put anywhere without a change to what begins and ends where.

## Main definitions

* `isDelimiter`, `skeleton`: the four characters, and those of a text in order

## Main results

* `skeleton_escape`, `skeleton_escapeScript`: an escaped text has no skeleton
* `skeleton_replace`: exchanging texts without a skeleton leaves the skeleton of a text as it is
* `skeleton_intercalate`: the skeleton of joined texts
-/

namespace DataGrid

/-! ## Characters that are left alone -/

/-- Replacing a text by another one keeps the characters of a kind that neither of them has. -/
theorem Text.filter_replaceAll {p : Char → Bool} {t : Char} {target replacement : List Char}
    (htarget : (t :: target).filter p = []) (hreplacement : replacement.filter p = [])
    (s : List Char) : (replaceAll t target replacement s).filter p = s.filter p := by
  obtain ⟨ht, hrest⟩ : p t = false ∧ target.filter p = [] := by
    simpa [List.filter_eq_nil_iff] using htarget
  fun_induction replaceAll t target replacement s with
  | case1 => rfl
  | case2 s rest hstrip ih =>
    -- an occurrence is exchanged, and neither it nor what it is exchanged for counts
    rw [stripStart_eq_some.mp hstrip, List.filter_append, List.filter_cons_of_neg (by simp [ht]),
      List.filter_append, hrest, hreplacement, ih]
  | case3 s hstrip ih => rw [List.filter_cons, List.filter_cons, ih]
  | case4 c s hc ih => rw [List.filter_cons, List.filter_cons, ih]

namespace Markup

/-! ## Skeletons -/

/-- Whether tags or attribute values begin or end at a character. -/
def isDelimiter (c : Char) : Bool := c == '<' || c == '>' || c == '"' || c == '\''

/-- **Skeleton.** The delimiters of a text, in order. -/
def skeleton (s : String) : List Char := s.toList.filter isDelimiter

@[simp]
theorem skeleton_append (s t : String) : skeleton (s ++ t) = skeleton s ++ skeleton t := by
  simp [skeleton]

/-- No entity has a delimiter. -/
theorem filter_isDelimiter_escapeChar (c : Char) : (escapeChar c).filter isDelimiter = [] := by
  unfold escapeChar
  split
  case h_6 => simp_all [isDelimiter]
  all_goals rfl

theorem notMem_escapeChars_of_isDelimiter {c : Char} (h : isDelimiter c) (s : List Char) :
    c ∉ escapeChars s := by
  intro hmem
  obtain ⟨d, -, hd⟩ := List.mem_flatMap.mp hmem
  have hdelimiter : c ∈ (escapeChar d).filter isDelimiter := List.mem_filter.mpr ⟨hd, h⟩
  rw [filter_isDelimiter_escapeChar] at hdelimiter
  cases hdelimiter

/-- **Escaped texts** have no skeleton. -/
@[simp]
theorem skeleton_escape (s : String) : skeleton (escape s) = [] := by
  rw [escape, escapeReporting]
  split_ifs with h
  · rw [skeleton, String.toList_ofList, escapeChars, List.filter_flatMap]
    exact List.flatMap_eq_nil_iff.mpr fun c _ => filter_isDelimiter_escapeChar c
  · -- a text that is handed on has no special character, and delimiters are special
    refine List.filter_eq_nil_iff.mpr fun c hc hdelimiter => h (List.any_eq_true.mpr ⟨c, hc, ?_⟩)
    simp only [isDelimiter, isSpecial, Bool.or_eq_true] at hdelimiter ⊢
    tauto

/-- Escaped prompts have no skeleton. -/
@[simp]
theorem skeleton_escapeScript (s : String) : skeleton (escapeScript s) = [] := skeleton_escape _

/-- **Replacement.** Where neither the text that is looked for nor what is put in its place has a
skeleton, the skeleton stays as it is. -/
theorem skeleton_replace {target replacement : String} (htarget : skeleton target = [])
    (hreplacement : skeleton replacement = []) (s : String) :
    skeleton (Text.replace target replacement s) = skeleton s := by
  rw [Text.replace]
  split
  · rfl
  · rename_i t rest hlist
    rw [skeleton, String.toList_ofList]
    exact Text.filter_replaceAll (hlist ▸ htarget) hreplacement _

/-- A template with an address in its places has the template's skeleton. -/
theorem skeleton_fillUrl (template : String) {text : String} (h : skeleton text = []) :
    skeleton (fillUrl template text) = skeleton template := skeleton_replace (by decide) h template

/-- A template with a prompt in its places has the template's skeleton. -/
theorem skeleton_fillMessage (template : String) {text : String} (h : skeleton text = []) :
    skeleton (fillMessage template text) = skeleton template :=
  skeleton_replace (by decide) h template

theorem filter_intercalate {p : Char → Bool} (separator : List Char) (texts : List (List Char)) :
    (separator.intercalate texts).filter p =
      (separator.filter p).intercalate (texts.map (List.filter p)) := by
  induction texts with
  | nil => simp
  | cons text texts ih =>
    cases texts with
    | nil => simp
    | cons next texts => simp_all

/-- The skeleton of texts with a separator between them. -/
theorem skeleton_intercalate (separator : String) (texts : List String) :
    skeleton (separator.intercalate texts) =
      (skeleton separator).intercalate (texts.map skeleton) := by
  rw [skeleton, String.toList_intercalate, filter_intercalate, List.map_map]
  rfl

end Markup

end DataGrid
