import DataGrid.Text.Replace
import Mathlib.Data.List.Infix

/-!
# Replacing inside composed texts

An occurrence begins with its first character and has no character that is not in it. So texts
that are kept apart by other characters are replaced in one by one, and a way of writing that
leaves the characters of an occurrence alone neither makes nor hides one.

## Main definitions

* `Text.LeavesAlone`: ways of writing that leave occurrences alone

## Main results

* `Text.infix_append_iff_of_notMem`, `Text.replaceAll_append_of_notMem`: texts in which no
  occurrence begins
* `Text.replaceAll_append_cons`: texts in front of a character that is in no occurrence
* `Text.LeavesAlone.infix_flatMap_iff`, `Text.LeavesAlone.replaceAll_flatMap`: written texts
-/

namespace DataGrid.Text

variable {t : Char} {target replacement s : List Char}

/-! ## One step -/

theorem stripStart_append (target s : List Char) : stripStart target (target ++ s) = some s :=
  stripStart_eq_some.mpr rfl

theorem isSome_stripStart_iff : (stripStart target s).isSome ↔ target <+: s := by
  rw [Option.isSome_iff_exists]
  exact exists_congr fun rest => stripStart_eq_some.trans eq_comm

theorem replaceAll_cons_of_ne {c : Char} (h : c ≠ t) (s : List Char) :
    replaceAll t target replacement (c :: s) = c :: replaceAll t target replacement s := by
  rw [replaceAll, if_neg h]

theorem replaceAll_cons_of_some {rest : List Char} (h : stripStart target s = some rest) :
    replaceAll t target replacement (t :: s) =
      replacement ++ replaceAll t target replacement rest := by
  rw [replaceAll, if_pos rfl]
  split
  · rename_i found hfound
    rw [Option.some.inj (hfound.symm.trans h)]
  · rename_i hnone
    cases hnone.symm.trans h

theorem replaceAll_cons_of_none (h : stripStart target s = none) :
    replaceAll t target replacement (t :: s) = t :: replaceAll t target replacement s := by
  rw [replaceAll, if_pos rfl]
  split
  · rename_i found hfound
    cases hfound.symm.trans h
  · rfl

theorem toList_replace {word : String} (h : word.toList = t :: target)
    (replacement s : String) :
    (replace word replacement s).toList = replaceAll t target replacement.toList s.toList := by
  rw [replace, h]
  exact String.toList_ofList

/-- A single character is replaced wherever it stands. -/
theorem replaceAll_nil_eq_flatMap (t : Char) (replacement s : List Char) :
    replaceAll t [] replacement s = s.flatMap fun c => if c = t then replacement else [c] := by
  induction s with
  | nil => rw [replaceAll, List.flatMap_nil]
  | cons c s ih =>
    by_cases h : c = t
    · subst h
      rw [replaceAll_cons_of_some (by rw [stripStart]), ih, List.flatMap_cons, if_pos rfl]
    · rw [replaceAll_cons_of_ne h, ih, List.flatMap_cons, if_neg h, List.singleton_append]

/-! ## Texts that are kept apart -/

/-- No occurrence begins in a text without its first character. -/
theorem infix_append_iff_of_notMem (h : t ∉ s) (r : List Char) :
    t :: target <:+: s ++ r ↔ t :: target <:+: r := by
  induction s with
  | nil => rfl
  | cons c s ih =>
    obtain ⟨hc, hs⟩ := List.ne_and_not_mem_of_not_mem_cons h
    rw [List.cons_append, List.infix_cons_iff, ih hs, List.cons_prefix_cons]
    simp [hc]

/-- Nothing is replaced where no occurrence begins. -/
theorem replaceAll_append_of_notMem (h : t ∉ s) (r : List Char) :
    replaceAll t target replacement (s ++ r) = s ++ replaceAll t target replacement r := by
  induction s with
  | nil => rfl
  | cons c s ih =>
    obtain ⟨hc, hs⟩ := List.ne_and_not_mem_of_not_mem_cons h
    rw [List.cons_append, replaceAll_cons_of_ne hc.symm, ih hs, List.cons_append]

theorem replaceAll_of_notMem (h : t ∉ s) : replaceAll t target replacement s = s := by
  have happend : replaceAll t target replacement (s ++ []) =
      s ++ replaceAll t target replacement [] := replaceAll_append_of_notMem h []
  rwa [List.append_nil, replaceAll, List.append_nil] at happend

theorem stripStart_append_cons {c : Char} (h : c ∉ target) (s r : List Char) :
    stripStart target (s ++ c :: r) = (stripStart target s).map (· ++ c :: r) := by
  induction target generalizing s with
  | nil => rfl
  | cons x target ih =>
    obtain ⟨hx, htarget⟩ := List.ne_and_not_mem_of_not_mem_cons h
    cases s with
    | nil => simp [stripStart, Ne.symm hx]
    | cons d s =>
      rw [List.cons_append, stripStart, stripStart, ih htarget]
      split_ifs <;> rfl

/-- No occurrence reaches across a character that is not in it. -/
theorem replaceAll_append_cons {c : Char} (h : c ∉ t :: target) (s r : List Char) :
    replaceAll t target replacement (s ++ c :: r) =
      replaceAll t target replacement s ++ c :: replaceAll t target replacement r := by
  obtain ⟨hc, htarget⟩ := List.ne_and_not_mem_of_not_mem_cons h
  fun_induction replaceAll t target replacement s with
  | case1 => rw [List.nil_append, replaceAll_cons_of_ne hc, List.nil_append]
  | case2 s rest hstrip ih =>
    have hfound : stripStart target (s ++ c :: r) = some (rest ++ c :: r) := by
      rw [stripStart_append_cons htarget, hstrip]
      rfl
    rw [List.cons_append, replaceAll_cons_of_some hfound, ih, List.append_assoc]
  | case3 s hstrip ih =>
    have hnone : stripStart target (s ++ c :: r) = none := by
      rw [stripStart_append_cons htarget, hstrip]
      rfl
    rw [List.cons_append, replaceAll_cons_of_none hnone, ih, List.cons_append]
  | case4 d s hd ih => rw [List.cons_append, replaceAll_cons_of_ne hd, ih, List.cons_append]

/-! ## Written texts -/

/-- **Ways of writing that leave occurrences alone.** The characters of an occurrence are written as
they are. What is written for another character starts with none of them, and no occurrence begins
in it. -/
structure LeavesAlone (write : Char → List Char) (t : Char) (target : List Char) : Prop where
  same : ∀ c ∈ t :: target, write c = [c]
  other : ∀ c ∉ t :: target, ∃ d rest, write c = d :: rest ∧ d ∉ t :: target ∧ t ∉ rest

namespace LeavesAlone

variable {write : Char → List Char}

/-- No occurrence begins in what is written for a character that is not its first. -/
theorem notMem_write (h : LeavesAlone write t target) {c : Char} (hc : c ≠ t) : t ∉ write c := by
  by_cases hmem : c ∈ t :: target
  · rw [h.same c hmem, List.mem_singleton]
    exact hc.symm
  · obtain ⟨d, rest, hwrite, hd, hrest⟩ := h.other c hmem
    rw [hwrite]
    rintro (_ | ⟨_, hmem⟩)
    · exact hd List.mem_cons_self
    · exact hrest hmem

theorem stripStart_flatMap (h : LeavesAlone write t target) {word : List Char}
    (hword : ∀ c ∈ word, c ∈ t :: target) (s : List Char) :
    stripStart word (s.flatMap write) = (stripStart word s).map (·.flatMap write) := by
  induction word generalizing s with
  | nil => rfl
  | cons x word ih =>
    obtain ⟨hx, hrest⟩ := List.forall_mem_cons.mp hword
    cases s with
    | nil => rfl
    | cons c s =>
      rw [List.flatMap_cons]
      by_cases hc : c ∈ t :: target
      · rw [h.same c hc, List.singleton_append, stripStart, stripStart, ih hrest]
        split_ifs <;> rfl
      · -- neither the character nor what is written for it goes on with the word
        obtain ⟨d, rest, hwrite, hd, -⟩ := h.other c hc
        have hwritten : x ≠ d := fun heq => hd (heq ▸ hx)
        have hplain : x ≠ c := fun heq => hc (heq ▸ hx)
        rw [hwrite, List.cons_append, stripStart, stripStart, if_neg hwritten, if_neg hplain]
        rfl

/-- **Occurrences in a written text** are those in the text. -/
theorem infix_flatMap_iff (h : LeavesAlone write t target) (s : List Char) :
    t :: target <:+: s.flatMap write ↔ t :: target <:+: s := by
  induction s with
  | nil => rfl
  | cons c s ih =>
    have hprefix : target <+: s.flatMap write ↔ target <+: s := by
      rw [← isSome_stripStart_iff, ← isSome_stripStart_iff,
        h.stripStart_flatMap (fun _ => List.mem_cons_of_mem t), Option.isSome_map]
    rw [List.flatMap_cons]
    by_cases hc : c ∈ t :: target
    · rw [h.same c hc, List.singleton_append, List.infix_cons_iff, List.infix_cons_iff, ih,
        List.cons_prefix_cons, List.cons_prefix_cons, hprefix]
    · have hne : c ≠ t := fun heq => hc (heq ▸ List.mem_cons_self)
      have hsingle : t ∉ [c] := List.mem_singleton.not.mpr hne.symm
      rw [infix_append_iff_of_notMem (h.notMem_write hne), ih]
      exact (infix_append_iff_of_notMem hsingle s).symm

/-- **Replacing in a written text.** It is the same to replace first and to write then. -/
theorem replaceAll_flatMap (h : LeavesAlone write t target) (replacement s : List Char) :
    replaceAll t target (replacement.flatMap write) (s.flatMap write) =
      (replaceAll t target replacement s).flatMap write := by
  have htarget : ∀ c ∈ target, c ∈ t :: target := fun _ => List.mem_cons_of_mem t
  have hfirst : write t = [t] := h.same t List.mem_cons_self
  fun_induction replaceAll t target replacement s with
  | case1 => rw [List.flatMap_nil, replaceAll]
  | case2 s rest hstrip ih =>
    have hfound : stripStart target (s.flatMap write) = some (rest.flatMap write) := by
      rw [h.stripStart_flatMap htarget, hstrip]
      rfl
    rw [List.flatMap_cons, hfirst, List.singleton_append, replaceAll_cons_of_some hfound, ih,
      List.flatMap_append]
  | case3 s hstrip ih =>
    have hnone : stripStart target (s.flatMap write) = none := by
      rw [h.stripStart_flatMap htarget, hstrip]
      rfl
    rw [List.flatMap_cons, List.flatMap_cons, hfirst, List.singleton_append,
      replaceAll_cons_of_none hnone, ih, List.singleton_append]
  | case4 c s hne ih =>
    rw [List.flatMap_cons, List.flatMap_cons, replaceAll_append_of_notMem (h.notMem_write hne), ih]

end LeavesAlone

end DataGrid.Text
