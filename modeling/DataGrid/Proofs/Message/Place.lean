import DataGrid.Message.Catalog
import DataGrid.Proofs.Numeric.Digits
import Mathlib.Data.List.OfFn

/-!
# Places of message templates

A place is the number of an argument in braces. There is no brace between the two, so places do not
overlap, and a brace that opens no place hides none behind it. Cutting a template from the left
therefore finds every place that it has anywhere.

## Main definitions

* `Place`, `Place.OccursAt`: the words that stand for arguments, and where they stand
* `Piece`, `Piece.fill`: the parts of a template, and what they become
* `AreParts`: pieces that a text is made of, with all places that it has
* `Cuts`: a template cut into pieces, from the left

## Main results

* `Place.chars_append_inj`: a text starts with one place at most
* `Place.OccursAt.add_length_le`: places do not overlap
* `exists_cuts`, `Cuts.areParts`: every template is cut into its parts
-/

namespace DataGrid.Message

open Numeric

variable {count : Nat}

/-! ## Places -/

/-- **Place.** What stands for an argument: its number in braces, possibly behind a plus sign. -/
@[ext]
structure Place (count : Nat) where
  plus : Bool
  numeral : List Char
  numeral_ne_nil : numeral ≠ []
  isDigit : ∀ c ∈ numeral, c.isDigit
  value_lt : valueOf numeral < count

namespace Place

/-- What stands between the braces. -/
def inner (p : Place count) : List Char := if p.plus then '+' :: p.numeral else p.numeral

/-- The characters of a place. -/
def chars (p : Place count) : List Char := '\x7b' :: (p.inner ++ ['\x7d'])

/-- The argument that a place stands for. -/
def index (p : Place count) : Fin count := ⟨valueOf p.numeral, p.value_lt⟩

/-- **Occurrence.** The place stands in a text behind so many characters. -/
def OccursAt (p : Place count) (start : Nat) (s : List Char) : Prop := p.chars <+: s.drop start

/-- There is no brace between the braces. -/
theorem not_brace_of_mem_inner {p : Place count} {c : Char} (hc : c ∈ p.inner) :
    c ≠ '\x7b' ∧ c ≠ '\x7d' := by
  have hdigit : ∀ d ∈ p.numeral, d ≠ '\x7b' ∧ d ≠ '\x7d' := by
    intro d hd
    have hd := p.isDigit d hd
    constructor
    · rintro rfl
      exact absurd hd (by decide)
    · rintro rfl
      exact absurd hd (by decide)
  rw [inner] at hc
  split at hc
  · rcases List.mem_cons.mp hc with rfl | hc
    · decide
    · exact hdigit c hc
  · exact hdigit c hc

theorem takeWhile_inner_append (p : Place count) (rest : List Char) :
    (p.inner ++ '\x7d' :: rest).takeWhile (· ≠ '\x7d') = p.inner := by
  rw [List.takeWhile_append_of_pos]
  · simp
  · intro c hc
    simpa using (not_brace_of_mem_inner hc).2

theorem dropWhile_inner_append (p : Place count) (rest : List Char) :
    (p.inner ++ '\x7d' :: rest).dropWhile (· ≠ '\x7d') = '\x7d' :: rest := by
  rw [List.dropWhile_append_of_pos]
  · simp
  · intro c hc
    simpa using (not_brace_of_mem_inner hc).2

theorem chars_append (p : Place count) (rest : List Char) :
    p.chars ++ rest = '\x7b' :: (p.inner ++ '\x7d' :: rest) := by
  simp [chars]

/-- Places are told apart by what stands between the braces. -/
theorem inner_injective : Function.Injective (inner : Place count → List Char) := by
  -- a plus sign is no digit, so it tells whether there is one
  have hplus : ∀ p q : Place count, '+' :: p.numeral ≠ q.numeral := by
    intro p q h
    have hdigit := q.isDigit '+' (h ▸ List.mem_cons_self)
    exact absurd hdigit (by decide)
  intro p q h
  rw [inner, inner] at h
  cases hp : p.plus <;> cases hq : q.plus <;> simp only [hp, hq, if_true, if_false,
    Bool.false_eq_true] at h
  · exact Place.ext (hp.trans hq.symm) h
  · exact absurd h.symm (hplus q p)
  · exact absurd h (hplus p q)
  · exact Place.ext (hp.trans hq.symm) (List.cons.inj h).2

/-- **Unique reading.** A text starts with one place at most. -/
theorem chars_append_inj {p q : Place count} {r t : List Char}
    (h : p.chars ++ r = q.chars ++ t) : p = q ∧ r = t := by
  rw [chars_append, chars_append] at h
  have hinner := congrArg (List.takeWhile (· ≠ '\x7d')) (List.cons.inj h).2
  have hrest := congrArg (List.dropWhile (· ≠ '\x7d')) (List.cons.inj h).2
  rw [takeWhile_inner_append, takeWhile_inner_append] at hinner
  rw [dropWhile_inner_append, dropWhile_inner_append] at hrest
  exact ⟨inner_injective hinner, (List.cons.inj hrest).2⟩

/-! ### Where places stand -/

theorem occursAt_append {p : Place count} (before s : List Char) (start : Nat) :
    p.OccursAt (before.length + start) (before ++ s) ↔ p.OccursAt start s := by
  rw [OccursAt, ← List.drop_drop, List.drop_left, OccursAt]

/-- An occurrence begins with a brace, and no character of a place but its first is one. -/
theorem OccursAt.length_le {p q : Place count} {s : List Char} {start : Nat}
    (h : q.OccursAt start (p.chars ++ s)) (hstart : 0 < start) : p.chars.length ≤ start := by
  by_contra hinside
  obtain ⟨k, rfl⟩ : ∃ k, start = k + 1 := ⟨start - 1, by omega⟩
  -- the brace would be a character of the place behind its first one
  obtain ⟨rest, hrest⟩ := h
  have hk : k < (p.inner ++ ['\x7d']).length := by
    rw [chars, List.length_cons] at hinside
    omega
  have hbrace : (p.inner ++ ['\x7d'])[k] = '\x7b' := by
    have hfirst := congrArg (·[0]?) hrest
    simp only [chars, List.cons_append, List.drop_succ_cons, List.getElem?_cons_zero,
      List.getElem?_drop, Nat.add_zero] at hfirst
    rw [List.getElem?_append_left hk, List.getElem?_eq_getElem hk] at hfirst
    exact (Option.some.inj hfirst).symm
  have hmem : '\x7b' ∈ p.inner ++ ['\x7d'] := hbrace ▸ List.getElem_mem hk
  rcases List.mem_append.mp hmem with hmem | hmem
  · exact (not_brace_of_mem_inner hmem).1 rfl
  · exact absurd hmem (by decide)

/-- **No overlap.** A place ends before another one that begins behind its start. -/
theorem OccursAt.add_length_le {p q : Place count} {s : List Char} {i j : Nat}
    (hp : p.OccursAt i s) (hq : q.OccursAt j s) (hij : i < j) : i + p.chars.length ≤ j := by
  obtain ⟨rest, hrest⟩ := hp
  have hq' : q.OccursAt (j - i) (p.chars ++ rest) := by
    rw [OccursAt, hrest, List.drop_drop, Nat.add_sub_cancel' hij.le]
    exact hq
  have := hq'.length_le (by omega)
  omega

theorem OccursAt.eq {p q : Place count} {s : List Char} {i : Nat} (hp : p.OccursAt i s)
    (hq : q.OccursAt i s) : p = q := by
  obtain ⟨r, hr⟩ := hp
  obtain ⟨t, ht⟩ := hq
  exact (chars_append_inj (hr.trans ht.symm)).1

end Place

/-! ## Templates cut into their parts -/

/-- **Piece.** A character of a template, or a place. -/
inductive Piece (count : Nat) where
  | char (c : Char)
  | place (p : Place count)

namespace Piece

/-- What a piece is written as. -/
def chars : Piece count → List Char
  | char c => [c]
  | place p => p.chars

/-- What a piece becomes: a place its argument, and any other character itself. -/
def fill (arg : Fin count → String) : Piece count → List Char
  | char c => [c]
  | place p => (arg p.index).toList

end Piece

/-- **Cut.** The places are taken off where the rest of the text starts with one, and single
characters elsewhere. -/
inductive Cuts : List Char → List (Piece count) → Prop
  | nil : Cuts [] []
  | place (p : Place count) {s : List Char} {ps : List (Piece count)} (h : Cuts s ps) :
      Cuts (p.chars ++ s) (.place p :: ps)
  | char {c : Char} {s : List Char} {ps : List (Piece count)}
      (hnone : ∀ p : Place count, ¬ p.chars <+: c :: s) (h : Cuts s ps) :
      Cuts (c :: s) (.char c :: ps)

/-- Every text can be cut. -/
theorem exists_cuts (count : Nat) (s : List Char) : ∃ ps : List (Piece count), Cuts s ps := by
  -- Induction on the length, since a place takes off several characters.
  induction hlength : s.length using Nat.strong_induction_on generalizing s with
  | _ n ih =>
    subst hlength
    by_cases hplace : ∃ p : Place count, p.chars <+: s
    · obtain ⟨p, rest, rfl⟩ := hplace
      have hshorter : rest.length < (p.chars ++ rest).length := by
        rw [Place.chars_append, List.length_cons, List.length_append, List.length_cons]
        omega
      obtain ⟨ps, hps⟩ := ih _ hshorter rest rfl
      exact ⟨_, hps.place p⟩
    · cases s with
      | nil => exact ⟨[], .nil⟩
      | cons c s =>
        obtain ⟨ps, hps⟩ := ih _ (Nat.lt_succ_self _) s rfl
        exact ⟨_, hps.char fun p hp => hplace ⟨p, hp⟩⟩

namespace Cuts

variable {s : List Char} {ps : List (Piece count)}

/-- Nothing is lost or added. -/
theorem flatMap_chars (h : Cuts s ps) : ps.flatMap Piece.chars = s := by
  induction h with
  | nil => rfl
  | place p h ih => rw [List.flatMap_cons, ih, Piece.chars]
  | char hnone h ih => rw [List.flatMap_cons, ih, Piece.chars, List.singleton_append]

/-- A text has a place at a position just where it is cut there. -/
theorem occursAt_iff (h : Cuts s ps) {p : Place count} {start : Nat} :
    p.OccursAt start s ↔
      ∃ before after, ps = before ++ .place p :: after ∧
        (before.flatMap Piece.chars).length = start := by
  constructor
  · -- Induction on the cut: what begins behind the first piece is found in the rest.
    intro hp
    induction h generalizing start with
    | nil =>
      have hempty : p.chars = [] := List.prefix_nil.mp (by simpa [Place.OccursAt] using hp)
      exact absurd hempty (by simp [Place.chars])
    | @place q s ps h ih =>
      rcases Nat.eq_zero_or_pos start with rfl | hpos
      · have hq : q.OccursAt 0 (q.chars ++ s) := List.prefix_append _ _
        obtain rfl := hp.eq hq
        exact ⟨[], ps, rfl, rfl⟩
      · -- a place that begins later does not begin inside the first one
        obtain ⟨k, rfl⟩ := Nat.exists_eq_add_of_le (hp.length_le hpos)
        obtain ⟨before, after, rfl, hlength⟩ := ih ((Place.occursAt_append _ _ _).mp hp)
        refine ⟨.place q :: before, after, rfl, ?_⟩
        rw [List.flatMap_cons, List.length_append, hlength, Piece.chars]
    | @char c s ps hnone h ih =>
      cases start with
      | zero => exact absurd hp (hnone p)
      | succ start =>
        obtain ⟨before, after, rfl, hlength⟩ := ih hp
        refine ⟨.char c :: before, after, rfl, ?_⟩
        rw [List.flatMap_cons, List.length_append, hlength, Piece.chars, List.length_singleton,
          Nat.add_comm]
  · rintro ⟨before, after, rfl, rfl⟩
    rw [← h.flatMap_chars, List.flatMap_append, List.flatMap_cons]
    exact (Place.occursAt_append _ _ 0).mpr (List.prefix_append _ _)

end Cuts

/-- **Parts of a text.** The text is made of the pieces, and the places among them are all that it
has anywhere. -/
structure AreParts (ps : List (Piece count)) (s : List Char) : Prop where
  written : ps.flatMap Piece.chars = s
  occursAt_iff : ∀ (p : Place count) (start : Nat), p.OccursAt start s ↔
    ∃ before after, ps = before ++ .place p :: after ∧
      (before.flatMap Piece.chars).length = start

theorem Cuts.areParts {s : List Char} {ps : List (Piece count)} (h : Cuts s ps) : AreParts ps s :=
  ⟨h.flatMap_chars, fun _ _ => h.occursAt_iff⟩

end DataGrid.Message
