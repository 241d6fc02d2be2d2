import DataGrid.Proofs.Markup.Escape
import DataGrid.Proofs.Markup.Skeleton
import Mathlib.Data.List.Infix

/-!
# Written forms of texts

A written form has no character at which a tag or an attribute value begins or ends, and each of
its ampersands starts an entity. So it is taken apart from the left in one way only, also where the
text that it stands for looks like an entity. The written forms are what escaping writes, no more
and no less, and each stands for one text.

## Main definitions

* `entities`, `IsWritten`: the entities, and the texts that are written forms
* `unescape`: the text that a written form stands for

## Main results

* `isWritten_escapeChars`: what escaping writes is a written form
* `isWritten_iff`: nothing else is
* `escapeChars_eq_self_iff`: the texts that are their own written forms
* `escape_isFaithful`: escaping is safe, and every text is read back
-/

namespace DataGrid.Markup

/-- The special characters, each with the entity that stands for it. -/
def entities : List (Char × String) :=
  [('&', "&amp;"), ('<', "&lt;"), ('>', "&gt;"), ('"', "&quot;"), ('\'', "&#x27;")]

/-- **Written form.** Nothing in the text begins or ends a tag or an attribute value, and every
ampersand starts an entity. -/
structure IsWritten (t : List Char) : Prop where
  noDelimiter : ∀ c ∈ t, ¬ isDelimiter c
  startsEntity : ∀ before after, t = before ++ '&' :: after →
    ∃ entity ∈ entities, entity.2.toList <+: '&' :: after

/-- The text that a written form stands for. -/
def unescape (t : String) : String := String.ofList (decodeEntities t.toList)

variable {s t : List Char} {c : Char}

/-! ## Entities -/

theorem escapeChar_of_mem_entities : ∀ entity ∈ entities,
    escapeChar entity.1 = entity.2.toList := by decide

theorem ampersand_notMem_tail : ∀ entity ∈ entities, '&' ∉ entity.2.toList.tail := by decide

theorem exists_entity_of_isSpecial (h : isSpecial c) : ∃ entity ∈ entities, entity.1 = c := by
  rw [← List.mem_map]
  simpa [isSpecial, entities, or_assoc] using h

theorem isSpecial_iff : isSpecial c ↔ c = '&' ∨ isDelimiter c := by
  simp [isSpecial, isDelimiter, or_assoc]

/-! ## What is written -/

namespace IsWritten

theorem nil : IsWritten [] where
  noDelimiter := List.forall_mem_nil _
  startsEntity before after h := by simp at h

/-- What stands at the end of a written form is one. -/
theorem of_append (h : IsWritten (s ++ t)) : IsWritten t where
  noDelimiter c hc := h.noDelimiter c (List.mem_append_right s hc)
  startsEntity before after ht := by
    refine h.startsEntity (s ++ before) after ?_
    rw [ht, List.append_assoc]

/-- Written forms can be put together. -/
theorem append (hs : IsWritten s) (ht : IsWritten t) : IsWritten (s ++ t) where
  noDelimiter c hc := (List.mem_append.mp hc).elim (hs.noDelimiter c) (ht.noDelimiter c)
  startsEntity before after heq := by
    rcases List.append_eq_append_iff.mp heq with ⟨rest, rfl, hrest⟩ | ⟨rest, rfl, hrest⟩
    · -- the ampersand is in the second part
      exact ht.startsEntity rest after hrest
    · cases rest with
      | nil => exact ht.startsEntity [] after hrest.symm
      | cons c rest =>
        -- the ampersand is in the first part, and so is the entity that it starts
        obtain ⟨rfl, rfl⟩ := List.cons.inj hrest
        obtain ⟨entity, hentity, hprefix⟩ := hs.startsEntity before rest rfl
        exact ⟨entity, hentity, hprefix.trans (List.prefix_append ('&' :: rest) t)⟩

end IsWritten

/-- The only ampersand of an entity is the one that starts it. -/
theorem eq_of_mem_entities {entity : Char × String} (h : entity ∈ entities)
    {before after : List Char} (heq : entity.2.toList = before ++ '&' :: after) :
    entity.2.toList = '&' :: after := by
  have htail := ampersand_notMem_tail entity h
  cases before with
  | nil => exact heq
  | cons c before =>
    rw [heq, List.cons_append, List.tail_cons] at htail
    exact absurd (List.mem_append_right before List.mem_cons_self) htail

theorem isWritten_escapeChar (c : Char) : IsWritten (escapeChar c) where
  noDelimiter d hd hdelimiter := by
    have hmem : d ∈ (escapeChar c).filter isDelimiter := List.mem_filter.mpr ⟨hd, hdelimiter⟩
    rw [filter_isDelimiter_escapeChar] at hmem
    cases hmem
  startsEntity before after heq := by
    cases hspecial : isSpecial c with
    | true =>
      obtain ⟨entity, hentity, rfl⟩ := exists_entity_of_isSpecial hspecial
      rw [escapeChar_of_mem_entities entity hentity] at heq
      exact ⟨entity, hentity, (eq_of_mem_entities hentity heq).symm ▸ List.prefix_rfl⟩
    | false =>
      -- the one character is no ampersand
      rw [escapeChar_of_not_isSpecial hspecial] at heq
      have hamp : '&' ∈ [c] := heq ▸ List.mem_append_right before List.mem_cons_self
      rw [← List.mem_singleton.mp hamp] at hspecial
      cases hspecial

/-- **Safety.** What escaping writes is a written form. -/
theorem isWritten_escapeChars (s : List Char) : IsWritten (escapeChars s) := by
  induction s with
  | nil => exact .nil
  | cons c s ih => exact (isWritten_escapeChar c).append ih

/-! ## What is read -/

/-- A written form starts with what is written for a character. -/
theorem IsWritten.exists_escapeChar_append (h : IsWritten t) (hne : t ≠ []) :
    ∃ c rest, t = escapeChar c ++ rest := by
  obtain ⟨c, rest, rfl⟩ := List.exists_cons_of_ne_nil hne
  by_cases hamp : c = '&'
  · subst hamp
    obtain ⟨entity, hentity, tail, htail⟩ := h.startsEntity [] rest rfl
    exact ⟨entity.1, tail, by rw [escapeChar_of_mem_entities entity hentity, htail]⟩
  · have hplain : isSpecial c = false := by
      rw [Bool.eq_false_iff, ne_eq, isSpecial_iff]
      exact not_or.mpr ⟨hamp, h.noDelimiter c List.mem_cons_self⟩
    exact ⟨c, rest, by rw [escapeChar_of_not_isSpecial hplain, List.singleton_append]⟩

theorem one_le_length_escapeChar (c : Char) : 1 ≤ (escapeChar c).length := by
  unfold escapeChar
  split <;> simp

/-- **Written forms are what escaping writes.** -/
theorem isWritten_iff : IsWritten t ↔ ∃ s, escapeChars s = t := by
  refine ⟨fun h => ?_, fun ⟨s, hs⟩ => hs ▸ isWritten_escapeChars s⟩
  -- Induction on the length: one character is read, and the rest is a shorter written form.
  induction hlength : t.length using Nat.strong_induction_on generalizing t with
  | _ n ih =>
    by_cases hne : t = []
    · exact ⟨[], hne.symm⟩
    · obtain ⟨c, rest, rfl⟩ := h.exists_escapeChar_append hne
      have hshorter : rest.length < n := by
        have := one_le_length_escapeChar c
        rw [List.length_append] at hlength
        omega
      obtain ⟨s, rfl⟩ := ih rest.length hshorter h.of_append rfl
      exact ⟨c :: s, List.flatMap_cons⟩

/-- A text is a written form just where it is written again for what it stands for. -/
theorem escapeChars_decodeEntities_eq_iff :
    escapeChars (decodeEntities t) = t ↔ IsWritten t := by
  rw [isWritten_iff]
  constructor
  · exact fun h => ⟨_, h⟩
  · rintro ⟨s, rfl⟩
    rw [decodeEntities_escapeChars]

/-! ## Texts that are handed on -/

theorem length_le_length_escapeChars (s : List Char) : s.length ≤ (escapeChars s).length := by
  induction s with
  | nil => exact le_rfl
  | cons c s ih =>
    have := one_le_length_escapeChar c
    rw [escapeChars, List.flatMap_cons, List.length_append, List.length_cons, ← escapeChars]
    omega

/-- **Unchanged texts.** A text without special characters is its own written form, and no other
text is. -/
theorem escapeChars_eq_self_iff : escapeChars s = s ↔ ¬ s.any isSpecial := by
  induction s with
  | nil => exact iff_of_true rfl Bool.false_ne_true
  | cons c s ih =>
    rw [escapeChars, List.flatMap_cons, ← escapeChars, List.any_cons]
    cases hspecial : isSpecial c with
    | true =>
      -- an entity is longer than the character that it stands for
      obtain ⟨entity, hentity, rfl⟩ := exists_entity_of_isSpecial hspecial
      have hlong : ∀ entity ∈ entities, 1 < entity.2.toList.length := by decide
      have hlength := length_le_length_escapeChars s
      refine iff_of_false (fun heq => ?_) (by simp)
      have := congrArg List.length heq
      rw [escapeChar_of_mem_entities entity hentity, List.length_append, List.length_cons] at this
      have := hlong entity hentity
      omega
    | false =>
      rw [escapeChar_of_not_isSpecial hspecial, List.singleton_append, List.cons.injEq, ih,
        Bool.false_or, and_iff_right rfl]

theorem escapeReporting_unchanged_iff (s : String) :
    (escapeReporting s).unchanged ↔ escapeChars s.toList = s.toList := by
  rw [escapeChars_eq_self_iff, escapeReporting]
  split_ifs with h <;> simp [h]

/-! ## Escaping -/

theorem toList_unescape (t : String) : (unescape t).toList = decodeEntities t.toList :=
  String.toList_ofList

/-- Every text is read back. -/
theorem unescape_escape (s : String) : unescape (escape s) = s := by
  rw [unescape, toList_escape, decodeEntities_escapeChars, String.ofList_toList]

theorem exists_escape_eq_iff (t : String) :
    (∃ s, escape s = t) ↔ IsWritten t.toList := by
  rw [isWritten_iff]
  constructor
  · rintro ⟨s, rfl⟩
    exact ⟨s.toList, (toList_escape s).symm⟩
  · rintro ⟨s, hs⟩
    refine ⟨String.ofList s, String.toList_inj.mp ?_⟩
    rw [toList_escape, String.toList_ofList, hs]

theorem escape_unescape_eq_iff (t : String) :
    escape (unescape t) = t ↔ IsWritten t.toList := by
  rw [← String.toList_inj, toList_escape, toList_unescape, escapeChars_decodeEntities_eq_iff]

theorem escape_append (a b : String) : escape (a ++ b) = escape a ++ escape b := by
  rw [← String.toList_inj, toList_escape, String.toList_append, escapeChars, List.flatMap_append,
    String.toList_append, toList_escape, toList_escape]
  rfl

/-- **Escaping is faithful and safe.** What is written is a written form, and the text is read back
from it, so that different texts are written differently. Written forms are all that is written,
and each is written again for the text that is read from it. Texts that are put together are
written one behind the other. A text is handed on as it is just where it is its own written
form. -/
theorem escape_isFaithful :
    (∀ s, IsWritten (escape s).toList ∧ unescape (escape s) = s) ∧
      Function.Injective escape ∧
      (∀ t, ((∃ s, escape s = t) ↔ IsWritten t.toList) ∧
        (escape (unescape t) = t ↔ ∃ s, escape s = t)) ∧
      (∀ a b, escape (a ++ b) = escape a ++ escape b) ∧
      ∀ s, (escapeReporting s).unchanged ↔ String.ofList (escapeChars s.toList) = s := by
  refine ⟨fun s => ⟨?_, unescape_escape s⟩, escape_injective,
    fun t => ⟨exists_escape_eq_iff t, ?_⟩, escape_append, fun s => ?_⟩
  · exact (exists_escape_eq_iff _).mp ⟨s, rfl⟩
  · rw [escape_unescape_eq_iff, exists_escape_eq_iff]
  · rw [escapeReporting_unchanged_iff, ← String.toList_inj, String.toList_ofList]

/-- A text that looks like an entity is written with its ampersand as an entity. -/
example : escape "&lt; <" = "&amp;lt; &lt;" ∧ unescape "&amp;lt; &lt;" = "&lt; <" := by decide

end DataGrid.Markup
