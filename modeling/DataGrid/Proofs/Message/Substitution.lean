import DataGrid.Proofs.Message.Place
import Mathlib.Data.Fin.VecNotation
import Mathlib.Logic.Function.Iterate

/-!
# Filling templates of messages

A template is scanned from the left, and what follows an opening brace is looked at only up to the
first closing one. The scan replaces all places of the template and nothing else, and does not look
into what it puts in.

## Main definitions

* `Scan`, `Scan.next`: what is written and what is unread, and one turn

## Main results

* `place?_eq_some_iff`: what follows an opening brace is taken for a place just where it is one
* `Cuts.substituteChars_eq`: a template is filled part by part
* `Scan.exists_iterate_next`: the scan ends with the filled template
* `Catalog.message_replacesPlaces`: messages are their templates with all places replaced at once
-/

namespace DataGrid.Message

open Numeric

variable {count : Nat}

/-! ## Filling -/

/-- **What follows an opening brace.** It is taken for a place just where it is one. -/
theorem place?_eq_some_iff {arg : Fin count → String} {s rest : List Char} {text : String} :
    place? (List.ofFn arg) s = some (text, rest) ↔
      ∃ p : Place count, s = p.inner ++ '\x7d' :: rest ∧ arg p.index = text := by
  constructor
  · intro h
    rw [place?] at h
    split at h
    · cases h
    rename_i brace rest' hdrop
    simp only [Option.bind_eq_bind, Option.pure_def, Option.bind_eq_some_iff, Option.some.injEq,
      Prod.mk.injEq] at h
    obtain ⟨index, hindex, text', htext, rfl, rfl⟩ := h
    -- what was dropped begins with the closing brace, and what was taken is a number
    have hbrace : brace = '\x7d' := by
      have hhead := List.head?_dropWhile_not (· ≠ '\x7d') s
      rw [hdrop] at hhead
      simpa using hhead
    have hs := List.takeWhile_append_dropWhile (p := (· ≠ '\x7d')) (l := s)
    rw [hdrop, hbrace] at hs
    obtain ⟨plus, ds, htaken, hne, hdigits, hvalue⟩ := natOfText?_eq_some_iff.mp hindex
    rw [List.getElem?_ofFn] at htext
    split at htext
    · rename_i hlt
      refine ⟨⟨plus, ds, hne, hdigits, hvalue ▸ hlt⟩, ?_, ?_⟩
      · rw [← hs, htaken]
        rfl
      · subst hvalue
        exact Option.some.inj htext
    · cases htext
  · rintro ⟨p, rfl, rfl⟩
    have hindex : natOfText? p.inner = some p.index :=
      natOfText?_eq_some_iff.mpr
        ⟨p.plus, p.numeral, rfl, p.numeral_ne_nil, p.isDigit, rfl⟩
    rw [place?, p.dropWhile_inner_append, p.takeWhile_inner_append, hindex]
    simp

/-- A place at the start is replaced. -/
theorem substituteChars_place (arg : Fin count → String) (p : Place count) (rest : List Char) :
    substituteChars (List.ofFn arg) (p.chars ++ rest) =
      (arg p.index).toList ++ substituteChars (List.ofFn arg) rest := by
  have hplace : place? (List.ofFn arg) (p.inner ++ '\x7d' :: rest) = some (arg p.index, rest) :=
    place?_eq_some_iff.mpr ⟨p, rfl, rfl⟩
  rw [Place.chars_append, substituteChars, if_pos rfl]
  split
  · rename_i hsome
    rw [hplace] at hsome
    cases hsome
    rfl
  · rename_i hnone
    rw [hplace] at hnone
    cases hnone

/-- A character that begins no place is kept. -/
theorem substituteChars_char (arg : Fin count → String) {c : Char} {s : List Char}
    (hnone : ∀ p : Place count, ¬ p.chars <+: c :: s) :
    substituteChars (List.ofFn arg) (c :: s) = c :: substituteChars (List.ofFn arg) s := by
  rw [substituteChars]
  split
  · rename_i hc
    subst hc
    split
    · -- what was taken for a place would be one
      rename_i hsome
      obtain ⟨p, rfl, -⟩ := place?_eq_some_iff.mp hsome
      exact absurd ⟨_, p.chars_append _⟩ (hnone p)
    · rfl
  · rfl

/-- **Filling.** A template is filled part by part, whatever the arguments hold. -/
theorem Cuts.substituteChars_eq {s : List Char} {ps : List (Piece count)} (h : Cuts s ps)
    (arg : Fin count → String) :
    substituteChars (List.ofFn arg) s = ps.flatMap (Piece.fill arg) := by
  induction h with
  | nil => rw [substituteChars, List.flatMap_nil]
  | place p h ih => rw [substituteChars_place, ih, List.flatMap_cons, Piece.fill]
  | char hnone h ih =>
    rw [substituteChars_char arg hnone, ih, List.flatMap_cons, Piece.fill, List.singleton_append]

/-! ## The scan -/

/-- **Scan.** What is written so far, and what is not yet read. -/
structure Scan where
  written : List Char
  unread : List Char

namespace Scan

/-- **Turn.** A place at the start of what is unread is exchanged for its argument, and any other
character is copied. At the end nothing changes. -/
def next (args : List String) (scan : Scan) : Scan :=
  match scan.unread with
  | [] => scan
  | c :: s =>
    match if c = '\x7b' then place? args s else none with
    | some (arg, rest) => ⟨scan.written ++ arg.toList, rest⟩
    | none => ⟨scan.written ++ [c], s⟩

/-- What a scan comes to: what is written, and behind it the filled rest. -/
def outcome (args : List String) (scan : Scan) : List Char :=
  scan.written ++ substituteChars args scan.unread

variable {args : List String}

/-- A turn does not change what the scan comes to. -/
theorem outcome_next (scan : Scan) : (scan.next args).outcome args = scan.outcome args := by
  obtain ⟨written, unread⟩ := scan
  cases unread with
  | nil => rfl
  | cons c s =>
    rw [outcome, outcome, next, substituteChars]
    by_cases hc : c = '\x7b'
    · simp only [hc, if_true]
      cases hplace : place? args s with
      | none => simp
      | some found => simp
    · simp [hc]

/-- A turn reads something, if there is something to read. -/
theorem length_next_lt {scan : Scan} (h : scan.unread ≠ []) :
    (scan.next args).unread.length < scan.unread.length := by
  obtain ⟨written, unread⟩ := scan
  cases unread with
  | nil => exact absurd rfl h
  | cons c s =>
    rw [next]
    by_cases hc : c = '\x7b'
    · simp only [hc, if_true]
      cases hplace : place? args s with
      | none => exact Nat.lt_succ_self _
      | some found => exact Nat.lt_succ_of_lt (place?_length_lt hplace)
    · simp [hc]

/-- **End of the scan.** After at most as many turns as there are characters nothing is unread, and
what the scan comes to is written. -/
theorem exists_iterate_next (scan : Scan) :
    ∃ turns ≤ scan.unread.length, (next args)^[turns] scan = ⟨scan.outcome args, []⟩ := by
  -- Induction on what is unread; each turn reads something and changes no outcome.
  induction hlength : scan.unread.length using Nat.strong_induction_on generalizing scan with
  | _ n ih =>
    subst hlength
    by_cases hend : scan.unread = []
    · obtain ⟨written, unread⟩ := scan
      obtain rfl : unread = [] := hend
      refine ⟨0, Nat.le_refl _, ?_⟩
      simp [outcome, substituteChars]
    · have hlt : (scan.next args).unread.length < scan.unread.length := length_next_lt hend
      obtain ⟨turns, hturns, hrun⟩ := ih _ hlt (scan.next args) rfl
      refine ⟨turns + 1, by omega, ?_⟩
      rw [Function.iterate_succ_apply, hrun, outcome_next]

end Scan

end DataGrid.Message

namespace DataGrid.Catalog

open Message

/-! ## Messages -/

theorem message_of_get?_eq_some {catalog : Catalog} {key template : String}
    (h : catalog.get? key = some template) (args : List String) :
    (catalog.message key args).toList = substituteChars args template.toList := by
  rw [message, h]
  exact String.toList_ofList

/-- **Messages.** Without a template the message is the key. The places of a template do not
overlap, whatever the number of arguments. They and the other characters are the pieces of the
template, which do not depend on what the arguments hold, and the message is made of the same
pieces with the argument of each place in its stead. The scan of the template ends. -/
theorem message_replacesPlaces (catalog : Catalog) (key : String) :
    (catalog.get? key = none → ∀ args, catalog.message key args = key) ∧
      ∀ template, catalog.get? key = some template →
        (∀ count : Nat,
          (∀ (p q : Place count) (i j : Nat), p.OccursAt i template.toList →
            q.OccursAt j template.toList →
              (i = j ∧ p = q) ∨ i + p.chars.length ≤ j ∨ j + q.chars.length ≤ i) ∧
          ∃ ps : List (Piece count), AreParts ps template.toList ∧
            ∀ arg : Fin count → String,
              (catalog.message key (List.ofFn arg)).toList = ps.flatMap (Piece.fill arg)) ∧
        ∀ args, ∃ turns ≤ template.toList.length,
          (Scan.next args)^[turns] ⟨[], template.toList⟩ =
            ⟨(catalog.message key args).toList, []⟩ := by
  constructor
  · intro hnone args
    rw [message, hnone]
  intro template htemplate
  have hmessage := message_of_get?_eq_some htemplate
  refine ⟨fun count => ⟨?_, ?_⟩, ?_⟩
  · intro p q i j hp hq
    rcases Nat.lt_trichotomy i j with hij | rfl | hij
    · exact .inr (.inl (hp.add_length_le hq hij))
    · exact .inl ⟨rfl, hp.eq hq⟩
    · exact .inr (.inr (hq.add_length_le hp hij))
  · obtain ⟨ps, hps⟩ := exists_cuts count template.toList
    refine ⟨ps, hps.areParts, fun arg => ?_⟩
    rw [hmessage, hps.substituteChars_eq]
  · intro args
    rw [hmessage]
    exact Scan.exists_iterate_next ⟨[], template.toList⟩

/-- A catalog with braces that open no place in front of some that do. -/
def bracesCatalog : Catalog :=
  ⟨"en", [("json", "\x7b\"a\": \x7b0\x7d\x7d \x7b+01\x7d \x7b2\x7d \x7bx\x7d \x7b")]⟩

/-- Two places of the template are replaced, and the braces of an argument stay. -/
theorem message_bracesCatalog :
    bracesCatalog.message "json" ["\x7b1\x7d", "X"] =
        "\x7b\"a\": \x7b1\x7d\x7d X \x7b2\x7d \x7bx\x7d \x7b" ∧
      bracesCatalog.message "other" ["X"] = "other" ∧
      ∃ ps : List (Piece 2), ∀ a b : String,
        (bracesCatalog.message "json" [a, b]).toList = ps.flatMap (Piece.fill ![a, b]) := by
  refine ⟨by decide +kernel, ?_, ?_⟩
  · exact (message_replacesPlaces bracesCatalog "other").1 (by decide) ["X"]
  · obtain ⟨hpieces, -⟩ := (message_replacesPlaces bracesCatalog "json").2 _ rfl
    obtain ⟨ps, -, hfilled⟩ := (hpieces 2).2
    exact ⟨ps, fun a b => hfilled ![a, b]⟩

end DataGrid.Catalog
