import DataGrid.Markup.Template
import DataGrid.Proofs.Text.Replace
import Mathlib.Data.List.Count

/-!
# Places of a template

A template is made of characters and of places for a prompt and for an address. Filling all places
at once never looks into what is put in. Filling the places for the prompt first and those for the
address second does: the prompt may make up further places, alone or with the characters around it,
and these are filled as well.

## Main definitions

* `Piece`, `pieces`: the characters and places of a template
* `fillPlaces`: a template with all places filled at once
* `addressPlaces`: how many places for an address a text has
* `Absorbs`: characters that make up further places

## Main results

* `toList_fillMessage`, `toList_fillUrl`: filling places of one kind, piece by piece
* `absorbs_pieces`: a text that is made of pieces has no other pieces but those that characters
  make up
* `fillUrl_fillMessage_eq_fillPlaces_iff`: filling one kind after the other is filling at once just
  where the prompt makes up no place
* `replaceAll_addressTail_eq_self_iff`: texts that filling leaves as they are
-/

namespace DataGrid.Markup

open Text

/-! ## Pieces -/

/-- **Piece.** A character of a template, or a place. -/
inductive Piece where
  | char (c : Char)
  | prompt
  | address
  deriving DecidableEq

/-- What follows the opening brace of a place for a prompt. -/
def promptTail : List Char := ['m', 'e', 's', 's', 'a', 'g', 'e', '\x7d']

/-- What follows the opening brace of a place for an address. -/
def addressTail : List Char := ['u', 'r', 'l', '\x7d']

/-- What a piece is filled with. -/
def Piece.fill (prompt address : List Char) : Piece → List Char
  | char c => [c]
  | .prompt => prompt
  | .address => address

/-- What a piece is written as. -/
def Piece.chars : Piece → List Char := fill ('\x7b' :: promptTail) ('\x7b' :: addressTail)

/-- **Pieces of a template**, from the left. -/
def pieces : List Char → List Piece
  | [] => []
  | c :: s =>
    if c = '\x7b' then
      match _hprompt : stripStart promptTail s with
      | some rest => .prompt :: pieces rest
      | none =>
        match _haddress : stripStart addressTail s with
        | some rest => .address :: pieces rest
        | none => .char c :: pieces s
    else .char c :: pieces s
termination_by s => s.length
decreasing_by
  · simp only [stripStart_eq_some.mp _hprompt, List.length_cons, List.length_append]
    omega
  · simp only [stripStart_eq_some.mp _haddress, List.length_cons, List.length_append]
    omega
  · exact Nat.lt_succ_self _
  · exact Nat.lt_succ_self _

/-- **Filling all places at once.** What is put in is not looked into. -/
def fillPlaces (template prompt address : String) : String :=
  String.ofList ((pieces template.toList).flatMap (Piece.fill prompt.toList address.toList))

/-- How many places for an address a text has. -/
def addressPlaces (s : String) : Nat := (pieces s.toList).count .address

/-! ### What a text starts with -/

theorem pieces_cons_of_ne {c : Char} (h : c ≠ '\x7b') (s : List Char) :
    pieces (c :: s) = .char c :: pieces s := by
  rw [pieces, if_neg h]

theorem pieces_brace_of_prompt {s rest : List Char} (h : stripStart promptTail s = some rest) :
    pieces ('\x7b' :: s) = .prompt :: pieces rest := by
  rw [pieces, if_pos rfl]
  split
  · rename_i hsome
    rw [Option.some.inj (hsome.symm.trans h)]
  · rename_i hnone
    cases hnone.symm.trans h

theorem pieces_brace_of_address {s rest : List Char} (hprompt : stripStart promptTail s = none)
    (h : stripStart addressTail s = some rest) :
    pieces ('\x7b' :: s) = .address :: pieces rest := by
  rw [pieces, if_pos rfl]
  split
  · rename_i hsome
    cases hsome.symm.trans hprompt
  · split
    · rename_i hsome
      rw [Option.some.inj (hsome.symm.trans h)]
    · rename_i hnone
      cases hnone.symm.trans h

theorem pieces_brace_of_none {s : List Char} (hprompt : stripStart promptTail s = none)
    (haddress : stripStart addressTail s = none) :
    pieces ('\x7b' :: s) = .char '\x7b' :: pieces s := by
  rw [pieces, if_pos rfl]
  split
  · rename_i hsome
    cases hsome.symm.trans hprompt
  · split
    · rename_i hsome
      cases hsome.symm.trans haddress
    · rfl

theorem pieces_promptPlace (s : List Char) :
    pieces ('\x7b' :: (promptTail ++ s)) = .prompt :: pieces s :=
  pieces_brace_of_prompt (stripStart_append _ _)

theorem pieces_addressPlace (s : List Char) :
    pieces ('\x7b' :: (addressTail ++ s)) = .address :: pieces s :=
  pieces_brace_of_address rfl (stripStart_append _ _)

/-- A text without an opening brace has no places. -/
theorem pieces_append_of_notMem {s : List Char} (h : '\x7b' ∉ s) (r : List Char) :
    pieces (s ++ r) = s.map .char ++ pieces r := by
  induction s with
  | nil => rfl
  | cons c s ih =>
    obtain ⟨hc, hs⟩ := List.ne_and_not_mem_of_not_mem_cons h
    rw [List.cons_append, pieces_cons_of_ne hc.symm, ih hs, List.map_cons, List.cons_append]

theorem pieces_of_notMem {s : List Char} (h : '\x7b' ∉ s) : pieces s = s.map .char := by
  have happend := pieces_append_of_notMem h []
  rwa [List.append_nil, pieces, List.append_nil] at happend

theorem brace_notMem_promptTail : '\x7b' ∉ promptTail := by decide

theorem brace_notMem_addressTail : '\x7b' ∉ addressTail := by decide

/-! ### Places of one kind -/

/-- Filling the places for a prompt leaves those for an address as they are. -/
theorem replaceAll_promptTail (prompt s : List Char) :
    replaceAll '\x7b' promptTail prompt s =
      (pieces s).flatMap (Piece.fill prompt ('\x7b' :: addressTail)) := by
  fun_induction pieces s with
  | case1 => rw [replaceAll, List.flatMap_nil]
  | case2 s rest hprompt ih =>
    rw [replaceAll_cons_of_some hprompt, ih]
    rfl
  | case3 s hprompt rest haddress ih =>
    -- a place for an address has no place for a prompt in it
    rw [replaceAll_cons_of_none hprompt, stripStart_eq_some.mp haddress,
      replaceAll_append_of_notMem brace_notMem_addressTail, ih]
    rfl
  | case4 s hprompt haddress ih =>
    rw [replaceAll_cons_of_none hprompt, ih]
    rfl
  | case5 c s hc ih =>
    rw [replaceAll_cons_of_ne hc, ih]
    rfl

/-- Filling the places for an address leaves those for a prompt as they are. -/
theorem replaceAll_addressTail (address s : List Char) :
    replaceAll '\x7b' addressTail address s =
      (pieces s).flatMap (Piece.fill ('\x7b' :: promptTail) address) := by
  fun_induction pieces s with
  | case1 => rw [replaceAll, List.flatMap_nil]
  | case2 s rest hprompt ih =>
    obtain rfl := stripStart_eq_some.mp hprompt
    have hnone : stripStart addressTail (promptTail ++ rest) = none := rfl
    rw [replaceAll_cons_of_none hnone, replaceAll_append_of_notMem brace_notMem_promptTail, ih]
    rfl
  | case3 s hprompt rest haddress ih =>
    rw [replaceAll_cons_of_some haddress, ih]
    rfl
  | case4 s hprompt haddress ih =>
    rw [replaceAll_cons_of_none haddress, ih]
    rfl
  | case5 c s hc ih =>
    rw [replaceAll_cons_of_ne hc, ih]
    rfl

/-- A template with the places for a prompt filled. -/
theorem toList_fillMessage (template prompt : String) :
    (fillMessage template prompt).toList =
      (pieces template.toList).flatMap (Piece.fill prompt.toList ('\x7b' :: addressTail)) := by
  rw [← replaceAll_promptTail]
  exact String.toList_ofList

/-- A template with the places for an address filled. -/
theorem toList_fillUrl (template address : String) :
    (fillUrl template address).toList =
      (pieces template.toList).flatMap (Piece.fill ('\x7b' :: promptTail) address.toList) := by
  rw [← replaceAll_addressTail]
  exact String.toList_ofList

/-! ## Places that are made up -/

/-- **Absorption.** The second pieces are the first ones, where characters that make up a place may
have become the place. -/
inductive Absorbs : List Piece → List Piece → Prop
  | nil : Absorbs [] []
  | keep (p : Piece) {ps qs : List Piece} (h : Absorbs ps qs) : Absorbs (p :: ps) (p :: qs)
  | prompt {ps qs : List Piece} (h : Absorbs ps qs) :
      Absorbs (('\x7b' :: promptTail).map .char ++ ps) (.prompt :: qs)
  | address {ps qs : List Piece} (h : Absorbs ps qs) :
      Absorbs (('\x7b' :: addressTail).map .char ++ ps) (.address :: qs)

/-- What has no opening brace is written by characters only. -/
theorem exists_of_flatMap_chars_eq_append {word : List Char} (hword : '\x7b' ∉ word)
    {ps : List Piece} {rest : List Char} (h : ps.flatMap Piece.chars = word ++ rest) :
    ∃ qs, ps = word.map .char ++ qs ∧ qs.flatMap Piece.chars = rest := by
  induction word generalizing ps with
  | nil => exact ⟨ps, rfl, h⟩
  | cons c word ih =>
    obtain ⟨hc, hrest⟩ := List.ne_and_not_mem_of_not_mem_cons hword
    cases ps with
    | nil => cases h
    | cons p ps =>
      rw [List.flatMap_cons, List.cons_append] at h
      cases p with
      | char d =>
        obtain ⟨rfl, htail⟩ := List.cons.inj h
        obtain ⟨qs, rfl, hqs⟩ := ih hrest htail
        exact ⟨qs, rfl, hqs⟩
      | prompt => exact absurd (List.cons.inj h).1 hc
      | address => exact absurd (List.cons.inj h).1 hc

/-- **Pieces of a text that is made of pieces.** Places stay places, since no place begins inside
another one. -/
theorem absorbs_pieces (ps : List Piece) : Absorbs ps (pieces (ps.flatMap Piece.chars)) := by
  -- Induction on the number of pieces: a place that characters make up takes several of them.
  induction hlength : ps.length using Nat.strong_induction_on generalizing ps with
  | _ n ih =>
    subst hlength
    cases ps with
    | nil =>
      rw [List.flatMap_nil, pieces]
      exact .nil
    | cons p ps =>
      have hrest : Absorbs ps (pieces (ps.flatMap Piece.chars)) := ih _ (Nat.lt_succ_self _) ps rfl
      have hshorter (word : List Char) (qs : List Piece) :
          qs.length < (p :: (word.map .char ++ qs)).length := by
        rw [List.length_cons, List.length_append]
        omega
      rw [List.flatMap_cons]
      cases p with
      | prompt => exact pieces_promptPlace _ ▸ .keep _ hrest
      | address => exact pieces_addressPlace _ ▸ .keep _ hrest
      | char c =>
        have hchars : Piece.chars (.char c) ++ ps.flatMap Piece.chars =
            c :: ps.flatMap Piece.chars := rfl
        rw [hchars]
        by_cases hc : c = '\x7b'
        · subst hc
          cases hprompt : stripStart promptTail (ps.flatMap Piece.chars) with
          | some rest =>
            obtain ⟨qs, rfl, rfl⟩ := exists_of_flatMap_chars_eq_append brace_notMem_promptTail
              (stripStart_eq_some.mp hprompt)
            rw [stripStart_eq_some.mp hprompt, pieces_promptPlace]
            exact .prompt (ih _ (hshorter _ _) qs rfl)
          | none =>
            cases haddress : stripStart addressTail (ps.flatMap Piece.chars) with
            | some rest =>
              obtain ⟨qs, rfl, rfl⟩ := exists_of_flatMap_chars_eq_append brace_notMem_addressTail
                (stripStart_eq_some.mp haddress)
              rw [stripStart_eq_some.mp haddress, pieces_addressPlace]
              exact .address (ih _ (hshorter _ _) qs rfl)
            | none =>
              rw [pieces_brace_of_none hprompt haddress]
              exact .keep _ hrest
        · rw [pieces_cons_of_ne hc]
          exact .keep _ hrest

theorem flatMap_fill_map_char (prompt address word : List Char) :
    (word.map Piece.char).flatMap (Piece.fill prompt address) = word := by
  rw [List.flatMap_map]
  exact List.flatMap_singleton' word

theorem count_address_map_char (word : List Char) : (word.map Piece.char).count .address = 0 := by
  rw [List.count_eq_zero, List.mem_map]
  rintro ⟨_, _, h⟩
  cases h

/-- A place that characters make up adds a place, and is filled with the address instead of the five
characters. -/
theorem Absorbs.exists_count_eq {ps qs : List Piece} (h : Absorbs ps qs) (address : List Char) :
    ∃ made, qs.count .address = ps.count .address + made ∧
      (qs.flatMap (Piece.fill ('\x7b' :: promptTail) address)).length + made * 5 =
        (ps.flatMap (Piece.fill ('\x7b' :: promptTail) address)).length + made * address.length := by
  induction h with
  | nil => exact ⟨0, rfl, by rw [Nat.zero_mul, Nat.zero_mul]⟩
  | keep p h ih =>
    obtain ⟨made, hcount, hlength⟩ := ih
    refine ⟨made, ?_, ?_⟩
    · rw [List.count_cons, List.count_cons, hcount]
      omega
    · rw [List.flatMap_cons, List.flatMap_cons, List.length_append, List.length_append]
      omega
  | prompt h ih =>
    obtain ⟨made, hcount, hlength⟩ := ih
    refine ⟨made, ?_, ?_⟩
    · rw [List.count_append, count_address_map_char, Nat.zero_add, ← hcount]
      rfl
    · rw [List.flatMap_append, flatMap_fill_map_char, List.flatMap_cons, List.length_append,
        List.length_append, Piece.fill]
      omega
  | address h ih =>
    obtain ⟨made, hcount, hlength⟩ := ih
    refine ⟨made + 1, ?_, ?_⟩
    · rw [List.count_append, count_address_map_char, Nat.zero_add, List.count_cons_self, hcount,
        Nat.add_assoc]
    · have hplace : ('\x7b' :: addressTail).length = 5 := rfl
      rw [List.flatMap_append, flatMap_fill_map_char, List.flatMap_cons, List.length_append,
        List.length_append, Piece.fill, Nat.succ_mul, Nat.succ_mul, hplace]
      omega

/-- Made up places change what is filled in, unless they are filled with the text they are
made of. -/
theorem Absorbs.flatMap_fill_eq_iff {ps qs : List Piece} (h : Absorbs ps qs) (address : List Char) :
    qs.flatMap (Piece.fill ('\x7b' :: promptTail) address) =
        ps.flatMap (Piece.fill ('\x7b' :: promptTail) address) ↔
      qs.count .address = ps.count .address ∨ address = '\x7b' :: addressTail := by
  induction h with
  | nil => exact iff_of_true rfl (.inl rfl)
  | keep p h ih =>
    rw [List.flatMap_cons, List.flatMap_cons, List.append_cancel_left_eq, ih, List.count_cons,
      List.count_cons, Nat.add_right_cancel_iff]
  | @prompt ps qs h ih =>
    have hcount : List.count Piece.address (.prompt :: qs) = qs.count .address := rfl
    rw [List.flatMap_append, flatMap_fill_map_char, List.flatMap_cons, Piece.fill,
      List.append_cancel_left_eq, ih, List.count_append, count_address_map_char, Nat.zero_add,
      hcount]
  | @address ps qs h ih =>
    obtain ⟨made, hcount, hlength⟩ := h.exists_count_eq address
    rw [List.flatMap_append, flatMap_fill_map_char, List.flatMap_cons, Piece.fill,
      List.count_append, count_address_map_char, Nat.zero_add, List.count_cons_self]
    constructor
    · intro heq
      right
      -- the address is as long as the place, or each made up place would change the length
      have hsame : address.length = ('\x7b' :: addressTail).length := by
        have hlengths := congrArg List.length heq
        rw [List.length_append, List.length_append] at hlengths
        have hplace : ('\x7b' :: addressTail).length = 5 := rfl
        have hproduct : (made + 1) * address.length = (made + 1) * 5 := by
          rw [Nat.succ_mul, Nat.succ_mul]
          omega
        exact Nat.eq_of_mul_eq_mul_left made.succ_pos hproduct
      exact (List.append_inj heq hsame).1
    · rintro (hmore | rfl)
      · omega
      · rw [ih.mpr (.inr rfl)]

/-! ## One kind after the other -/

/-- A piece with the prompt as characters. -/
def Piece.withPrompt (prompt : List Char) : Piece → List Piece
  | .prompt => prompt.map .char
  | p => [p]

theorem Piece.flatMap_fill_withPrompt (prompt other address : List Char) (p : Piece) :
    (p.withPrompt prompt).flatMap (Piece.fill other address) = p.fill prompt address := by
  cases p with
  | prompt => exact flatMap_fill_map_char _ _ _
  | char c => rfl
  | address => exact List.append_nil _

theorem count_address_flatMap_withPrompt (prompt : List Char) (ps : List Piece) :
    (ps.flatMap (Piece.withPrompt prompt)).count .address = ps.count .address := by
  induction ps with
  | nil => rfl
  | cons p ps ih =>
    rw [List.flatMap_cons, List.count_append, ih, ← List.singleton_append, List.count_append]
    cases p with
    | prompt => rw [Piece.withPrompt, count_address_map_char]; rfl
    | char c => rfl
    | address => rfl

/-- **One kind after the other.** Filling the places for an address last is filling all places at
once just where the prompt makes up no place for an address. -/
theorem fillUrl_fillMessage_eq_fillPlaces_iff (template prompt address : String) :
    fillUrl (fillMessage template prompt) address = fillPlaces template prompt address ↔
      addressPlaces (fillMessage template prompt) = addressPlaces template ∨
        address = "\x7burl\x7d" := by
  set ps := (pieces template.toList).flatMap (Piece.withPrompt prompt.toList) with hps
  have hfill (other address : List Char) : ps.flatMap (Piece.fill other address) =
      (pieces template.toList).flatMap (Piece.fill prompt.toList address) := by
    rw [hps, List.flatMap_assoc]
    exact List.flatMap_congr fun p _ => p.flatMap_fill_withPrompt _ _ _
  have hmessage : (fillMessage template prompt).toList = ps.flatMap Piece.chars := by
    rw [toList_fillMessage, ← hfill]
    rfl
  have habsorbs : Absorbs ps (pieces (fillMessage template prompt).toList) :=
    hmessage ▸ absorbs_pieces ps
  have hcount : ps.count .address = addressPlaces template :=
    count_address_flatMap_withPrompt _ _
  rw [← String.toList_inj, toList_fillUrl, fillPlaces, String.toList_ofList, ← hfill,
    habsorbs.flatMap_fill_eq_iff, hcount, ← String.toList_inj]
  rfl

theorem address_mem_pieces_iff (s : List Char) :
    .address ∈ pieces s ↔ '\x7b' :: addressTail <:+: s := by
  have hbrace (s : List Char) : '\x7b' :: addressTail <:+: '\x7b' :: s ↔
      (stripStart addressTail s).isSome ∨ '\x7b' :: addressTail <:+: s := by
    rw [List.infix_cons_iff, List.cons_prefix_cons, isSome_stripStart_iff]
    exact or_congr_left (and_iff_right rfl)
  fun_induction pieces s with
  | case1 => exact iff_of_false List.not_mem_nil (by simp)
  | case2 s rest hprompt ih =>
    obtain rfl := stripStart_eq_some.mp hprompt
    have hnone : stripStart addressTail (promptTail ++ rest) = none := rfl
    rw [hbrace, hnone, infix_append_iff_of_notMem brace_notMem_promptTail]
    simpa using ih
  | case3 s hprompt rest haddress ih =>
    rw [hbrace, haddress]
    exact iff_of_true List.mem_cons_self (.inl rfl)
  | case4 s hprompt haddress ih =>
    rw [hbrace, haddress]
    simpa using ih
  | case5 c s hc ih =>
    have hsingle : '\x7b' ∉ [c] := List.mem_singleton.not.mpr (Ne.symm hc)
    have hskip : '\x7b' :: addressTail <:+: [c] ++ s ↔ '\x7b' :: addressTail <:+: s :=
      infix_append_iff_of_notMem hsingle s
    simpa using ih.trans hskip.symm

/-- **Filling changes a text** that has a place for an address, unless the address is written as
the place itself. -/
theorem replaceAll_addressTail_eq_self_iff (address s : List Char) :
    replaceAll '\x7b' addressTail address s = s ↔
      ¬ '\x7b' :: addressTail <:+: s ∨ address = '\x7b' :: addressTail := by
  have hchars : (s.map Piece.char).flatMap Piece.chars = s := flatMap_fill_map_char _ _ s
  have habsorbs : Absorbs (s.map .char) (pieces s) := by
    have h := absorbs_pieces (s.map .char)
    rwa [hchars] at h
  have hfill := habsorbs.flatMap_fill_eq_iff address
  rwa [flatMap_fill_map_char, ← replaceAll_addressTail, count_address_map_char,
    List.count_eq_zero, address_mem_pieces_iff] at hfill

end DataGrid.Markup
