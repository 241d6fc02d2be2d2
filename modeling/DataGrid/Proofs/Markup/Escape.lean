import DataGrid.Markup.Script
import Mathlib.Data.List.Basic

/-!
# Escaped text is read back

Every text is read back from its written form, in markup and in a script string, whatever stands
behind it.

## Main results

* `toList_escape`: an escaped text is its written form, character by character
* `decodeEntities_escapeChars_append`: a text is read back from markup
* `unquote_quoteChars_append`: a text is read back from a script string
* `escape_injective`: different texts have different written forms
-/

namespace DataGrid.Markup

/-! ## Entities -/

theorem escapeChar_of_not_isSpecial {c : Char} (h : isSpecial c = false) : escapeChar c = [c] := by
  unfold escapeChar
  split <;> first | rfl | simp [isSpecial] at h

theorem toList_escape (s : String) : (escape s).toList = escapeChars s.toList := by
  rw [escape, escapeReporting]
  split_ifs with h
  · exact String.toList_ofList
  · -- a text that is handed on has no special character
    have hplain : ∀ c ∈ s.toList, escapeChar c = [c] := by
      intro c hc
      apply escapeChar_of_not_isSpecial
      rw [Bool.eq_false_iff]
      exact fun hspecial => h (List.any_eq_true.mpr ⟨c, hc, hspecial⟩)
    rw [escapeChars, List.flatMap_congr hplain, List.flatMap_singleton']

/-- Entities start with an ampersand, any other character stands for itself. -/
theorem decodeEntities_cons_of_ne {c : Char} (h : c ≠ '&') (s : List Char) :
    decodeEntities (c :: s) = c :: decodeEntities s := by
  rw [decodeEntities] <;> exact fun _ heq => (h heq).elim

theorem decodeEntities_append_of_notMem {s : List Char} (h : '&' ∉ s) (t : List Char) :
    decodeEntities (s ++ t) = s ++ decodeEntities t := by
  induction s with
  | nil => rfl
  | cons c s ih =>
    obtain ⟨hc, hs⟩ := List.ne_and_not_mem_of_not_mem_cons h
    rw [List.cons_append, decodeEntities_cons_of_ne hc.symm, ih hs, List.cons_append]

theorem decodeEntities_escapeChar_append (c : Char) (s : List Char) :
    decodeEntities (escapeChar c ++ s) = c :: decodeEntities s := by
  unfold escapeChar
  split
  case h_6 hamp _ _ _ _ => exact decodeEntities_cons_of_ne hamp s
  all_goals rfl

/-- **Reading back markup.** Behind an escaped text, reading goes on with what follows it. -/
theorem decodeEntities_escapeChars_append (s t : List Char) :
    decodeEntities (escapeChars s ++ t) = s ++ decodeEntities t := by
  induction s with
  | nil => rfl
  | cons c s ih =>
    rw [escapeChars, List.flatMap_cons, List.append_assoc, decodeEntities_escapeChar_append,
      ← escapeChars, ih, List.cons_append]

theorem decodeEntities_escapeChars (s : List Char) : decodeEntities (escapeChars s) = s := by
  have h := decodeEntities_escapeChars_append s []
  rwa [List.append_nil, decodeEntities, List.append_nil] at h

theorem escapeChars_injective : Function.Injective escapeChars :=
  Function.LeftInverse.injective decodeEntities_escapeChars

/-- **Escaping is faithful.** Different texts are escaped to different ones. -/
theorem escape_injective : Function.Injective escape := by
  intro s t h
  have hchars : escapeChars s.toList = escapeChars t.toList := by
    rw [← toList_escape, ← toList_escape, h]
  exact String.toList_inj.mp (escapeChars_injective hchars)

/-! ## Script strings -/

/-- A prompt is quoted first and escaped then. -/
theorem toList_escapeScript (s : String) :
    (escapeScript s).toList = escapeChars (quoteChars s.toList) := by
  rw [escapeScript, toList_escape, String.toList_ofList]

theorem unquote_quoteChar_append (c : Char) (s : List Char) :
    unquote (quoteChar c ++ s) = (unquote s).map (c :: ·) := by
  unfold quoteChar
  split
  case h_3 hslash hquote =>
    rw [List.singleton_append, unquote]
    · exact fun h _ => (hslash h).elim
    · exact fun _ _ h _ => (hslash h).elim
    · exact fun h => (hquote h).elim
  all_goals rfl

/-- **Reading back a script string.** Behind a quoted text, reading goes on with what follows. -/
theorem unquote_quoteChars_append (s t : List Char) :
    unquote (quoteChars s ++ t) = (unquote t).map (s ++ ·) := by
  induction s with
  | nil => simp [quoteChars]
  | cons c s ih =>
    rw [quoteChars, List.flatMap_cons, List.append_assoc, unquote_quoteChar_append, ← quoteChars,
      ih, Option.map_map]
    rfl

theorem unquote_quoteChars (s : List Char) : unquote (quoteChars s) = some s := by
  have h := unquote_quoteChars_append s []
  rwa [List.append_nil, unquote, Option.map_some, List.append_nil] at h

end DataGrid.Markup
