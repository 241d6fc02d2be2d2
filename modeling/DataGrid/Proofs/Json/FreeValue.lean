import DataGrid.Proofs.Json.Decoder
import Mathlib.Data.List.TakeWhile
import Mathlib.Tactic.SplitIfs

/-!
# Free values that are read back

A value of any shape is read into one form: integers are kept as far as 64 bits hold them, members
stand in the order of their names, and no more arrays and objects are opened than are allowed.
Written values of this form are read as they are, if their numbers are whole.

## Main definitions

* `Number.Exact`: integers that are kept
* `Canonical`: the form that values are read into

## Main results

* `Number.ofText?_signed`: an integer that is kept is read back
* `canonical_of_ofFragment`: values are read into the form
* `ofFragment_written`: values of the form are read back
-/

namespace DataGrid.Json

open Numeric

/-! ## Integers -/

/-- **Exact integers.** They have 64 bits, with or without a sign. -/
def Number.Exact (n : Int) : Prop := -(twoTo 63 : Int) ≤ n ∧ n < twoTo 64

theorem Number.doubleOf?_ne_integer {negative : Bool} {whole places : List Char} {power : Int}
    {n : Int} : doubleOf? negative whole places power ≠ some (.integer n) := by
  simp [doubleOf?]

/-- Only exact integers are kept. -/
theorem Number.exact_of_ofText? {s : List Char} {n : Int} (h : ofText? s = some (.integer n)) :
    Exact n := by
  unfold ofText? at h
  split at h
  · -- a numeral without places or power
    rename_i negative whole _
    have hbounds : (twoTo 63 : Int) = 2 ^ 63 ∧ (twoTo 64 : Int) = 2 ^ 64 := ⟨rfl, rfl⟩
    simp only at h
    split_ifs at h with hnegative hsize hlt
    · obtain rfl : -(valueOf whole : Int) = n := by simpa using h
      rw [Exact]
      omega
    · exact absurd h doubleOf?_ne_integer
    · obtain rfl : (valueOf whole : Int) = n := by simpa using h
      rw [Exact]
      omega
    · exact absurd h doubleOf?_ne_integer
  · exact absurd h doubleOf?_ne_integer
  · -- a numeral with a power is none of an integer
    simp only at h
    split_ifs at h <;> first | exact absurd h doubleOf?_ne_integer | simp at h

theorem takeWhile_digits (n : Nat) :
    (digits n).takeWhile Char.isDigit = digits n ∧ (digits n).dropWhile Char.isDigit = [] :=
  ⟨List.takeWhile_eq_self_iff.mpr fun _ h => isDigit_of_mem_digits h,
    List.dropWhile_eq_nil_iff.mpr fun _ h => isDigit_of_mem_digits h⟩

theorem Number.split_signed (n : Int) :
    split (signed n) = (decide (n < 0), digits n.natAbs, [], none) := by
  obtain ⟨htake, hdrop⟩ := takeWhile_digits n.natAbs
  rw [signed]
  split_ifs with hn
  · simp [split, htake, hdrop, hn]
  · -- the first digit is no minus sign
    obtain ⟨d, ds, hdigits, hd, -⟩ := digits_eq_cons n.natAbs
    have hminus : d ≠ '-' := by
      rintro rfl
      exact absurd hd (by decide)
    rw [hdigits] at htake hdrop ⊢
    unfold split
    split
    rename_i hsign
    split at hsign
    · rename_i heq
      exact absurd (List.cons.inj heq).1 hminus
    · obtain ⟨rfl, rfl⟩ := Prod.mk.inj hsign
      simp [htake, hdrop, hn]

/-- **Reading back an integer** that is kept. -/
theorem Number.ofText?_signed {n : Int} (h : Exact n) :
    ofText? (signed n) = some (.integer n) := by
  obtain ⟨hlow, hhigh⟩ := h
  have hbounds : (twoTo 63 : Int) = 2 ^ 63 ∧ (twoTo 64 : Int) = 2 ^ 64 := ⟨rfl, rfl⟩
  simp only [ofText?, split_signed, valueOf_digits]
  by_cases hn : n < 0
  · -- the numeral has a minus sign, and its size is none that is too large for one
    rw [if_pos (decide_eq_true hn), if_pos (by omega)]
    simp only [Option.some.injEq, integer.injEq]
    omega
  · rw [if_neg (by simpa using hn), if_pos (by omega)]
    simp only [Option.some.injEq, integer.injEq]
    omega

theorem Number.exact_toInt (n : Int64) : Exact n.toInt := by
  have hlow := n.le_toInt
  have hhigh := n.toInt_lt
  have hbounds : (twoTo 63 : Int) = 2 ^ 63 ∧ (twoTo 64 : Int) = 2 ^ 64 := ⟨rfl, rfl⟩
  rw [Exact]
  omega

/-- A 64-bit integer that is written as a number is read back. -/
theorem Decoder.int64_written (n : Int64) (site : Site) :
    Decoder.int64 site (.written (.int n.toInt)) = .ok n := by
  have hlow := n.le_toInt
  have hhigh := n.toInt_lt
  have hbounds : (twoTo 63 : Int) = 2 ^ 63 := rfl
  have hnumber : Decoder.number site (.written (.int n.toInt)) = .ok (.integer n.toInt) := by
    simp only [Decoder.number, Json.int, Fragment.written, Number.chars,
      Number.ofText?_signed (Number.exact_toInt n)]
  have hinteger : Decoder.integer (-(twoTo 63 : Int)) (twoTo 63 - 1) site
      (.written (.int n.toInt)) = .ok n.toInt := by
    simp only [Decoder.integer, hnumber, bind, Except.bind]
    exact if_pos (by omega)
  rw [Decoder.int64, hinteger]
  exact congrArg Except.ok (Int64.ofInt_toInt n)

/-! ## The form of values that are read -/

/-- **Canonical values.** Integers are exact, members stand in the order of their names, and
arrays and objects are inside each other at most so deep. -/
inductive Canonical : Nat → Json → Prop
  | null (depth : Nat) : Canonical depth .null
  | bool (depth : Nat) (b : Bool) : Canonical depth (.bool b)
  | integer (depth : Nat) {n : Int} (h : Number.Exact n) : Canonical depth (.number (.integer n))
  | double (depth : Nat) (x : Binary64) : Canonical depth (.number (.double x))
  | string (depth : Nat) (s : String) : Canonical depth (.string s)
  | array {depth : Nat} {items : List Json} (h : ∀ item ∈ items, Canonical depth item) :
      Canonical (depth + 1) (.array items)
  | object {depth : Nat} {members : List (String × Json)} (hsorted : Dictionary.Sorted members)
      (h : ∀ member ∈ members, Canonical depth member.2) : Canonical (depth + 1) (.object members)

mutual

/-- **Reading.** Values are read into canonical ones. -/
theorem canonical_of_ofFragment : ∀ (f : Fragment) (depth : Nat) (v : Json),
    ofFragment depth f = .ok v → Canonical depth v
  | .null, depth, v, h => by
    obtain rfl := Except.ok.inj h
    exact .null depth
  | .bool b, depth, v, h => by
    obtain rfl := Except.ok.inj h
    exact .bool depth b
  | .number s, depth, v, h => by
    cases hnumber : Number.ofText? s with
    | none => simp [ofFragment, hnumber] at h
    | some n =>
      obtain rfl : Json.number n = v := by simpa [ofFragment, hnumber] using h
      cases n with
      | integer n => exact .integer depth (Number.exact_of_ofText? hnumber)
      | double x => exact .double depth x
  | .string q, depth, v, h => by
    rw [ofFragment] at h
    cases hchars : q.chars with
    | error fault => simp [hchars, Except.map] at h
    | ok s =>
      obtain rfl : Json.string (String.ofList s) = v := by simpa [hchars, Except.map] using h
      exact .string depth _
  | .array items fault, 0, v, h => by simp [ofFragment] at h
  | .array items fault, depth + 1, v, h => by
    obtain ⟨values, hvalues, h⟩ := exists_of_bind_eq_ok h
    obtain ⟨-, -, h⟩ := exists_of_bind_eq_ok h
    obtain rfl := Except.ok.inj h
    exact .array (canonical_of_ofFragments items depth values hvalues)
  | .object members fault, 0, v, h => by simp [ofFragment] at h
  | .object members fault, depth + 1, v, h => by
    obtain ⟨values, hvalues, h⟩ := exists_of_bind_eq_ok h
    obtain ⟨-, -, h⟩ := exists_of_bind_eq_ok h
    obtain rfl := Except.ok.inj h
    obtain ⟨hsorted, hcanonical⟩ :=
      canonical_of_ofMembers members depth [] values .nil (fun _ h => nomatch h) hvalues
    exact .object hsorted hcanonical
  | .cutWord, depth, v, h => by simp [ofFragment] at h
  | .cutNumber, depth, v, h => by simp [ofFragment] at h
  | .broken fault, depth, v, h => by simp [ofFragment] at h

/-- Items are read into canonical ones. -/
theorem canonical_of_ofFragments : ∀ (items : List Fragment) (depth : Nat) (values : List Json),
    ofFragments depth items = .ok values → ∀ value ∈ values, Canonical depth value
  | [], depth, values, h => by
    obtain rfl := Except.ok.inj h
    exact fun _ h => nomatch h
  | item :: rest, depth, values, h => by
    obtain ⟨first, hfirst, h⟩ := exists_of_bind_eq_ok h
    obtain ⟨others, hothers, h⟩ := exists_of_bind_eq_ok h
    obtain rfl := Except.ok.inj h
    exact List.forall_mem_cons.mpr ⟨canonical_of_ofFragment item depth first hfirst,
      canonical_of_ofFragments rest depth others hothers⟩

/-- Members are read into canonical ones, and put in order. -/
theorem canonical_of_ofMembers : ∀ (members : List (Quoted × Fragment)) (depth : Nat)
    (sorted values : Dictionary Json), Dictionary.Sorted sorted →
    (∀ member ∈ sorted, Canonical depth member.2) → ofMembers depth sorted members = .ok values →
    Dictionary.Sorted values ∧ ∀ member ∈ values, Canonical depth member.2
  | [], depth, sorted, values, hsorted, hcanonical, h => by
    obtain rfl := Except.ok.inj h
    exact ⟨hsorted, hcanonical⟩
  | (name, value) :: rest, depth, sorted, values, hsorted, hcanonical, h => by
    obtain ⟨key, -, h⟩ := exists_of_bind_eq_ok h
    obtain ⟨first, hfirst, h⟩ := exists_of_bind_eq_ok h
    refine canonical_of_ofMembers rest depth _ values (Dictionary.sorted_insert hsorted)
      (fun member hmember => ?_) h
    -- a member is the one that was put in, or one that was there before
    rcases Dictionary.mem_insert hmember with rfl | hmember
    · exact canonical_of_ofFragment value depth first hfirst
    · exact hcanonical member hmember

end

/-! ## Reading back -/

theorem areWhole_iff {items : List Json} : areWhole items ↔ ∀ item ∈ items, isWhole item := by
  induction items with
  | nil => simp [areWhole]
  | cons item rest ih => simp [areWhole, ih]

theorem ofFragments_writtenItems {depth : Nat} {items : List Json}
    (h : ∀ item ∈ items, ofFragment depth (.written item) = .ok item) :
    ofFragments depth (Fragment.writtenItems items) = .ok items := by
  induction items with
  | nil => rfl
  | cons item rest ih =>
    obtain ⟨hitem, hrest⟩ := List.forall_mem_cons.mp h
    rw [Fragment.writtenItems, ofFragments, hitem, ih hrest]
    rfl

/-- Members that stand in order behind those before them are read back behind them. -/
theorem ofMembers_writtenMembers {depth : Nat} (before : Dictionary Json)
    {members : Dictionary Json} (hsorted : Dictionary.Sorted (before ++ members))
    (h : ∀ member ∈ members, ofFragment depth (.written member.2) = .ok member.2) :
    ofMembers depth before (Fragment.writtenMembers members) = .ok (before ++ members) := by
  induction members generalizing before with
  | nil =>
    rw [List.append_nil]
    rfl
  | cons member rest ih =>
    obtain ⟨hmember, hrest⟩ := List.forall_mem_cons.mp h
    have hlast : ∀ other ∈ before, other.1 < member.1 := fun other hother =>
      (List.pairwise_append.mp hsorted).2.2 other hother member List.mem_cons_self
    rw [List.append_cons] at hsorted ⊢
    rw [← ih _ hsorted hrest, Fragment.writtenMembers, ofMembers, Quoted.written_chars, hmember]
    simp only [bind, Except.bind, String.ofList_toList, Dictionary.insert_of_last hlast]

/-- **Reading back.** A written canonical value is read as it is if its numbers are whole. -/
theorem ofFragment_written {depth : Nat} {v : Json} (h : Canonical depth v) (hwhole : isWhole v) :
    ofFragment depth (.written v) = .ok v := by
  induction h with
  | null | bool => rfl
  | integer depth hexact =>
    rw [Fragment.written, ofFragment, Number.chars, Number.ofText?_signed hexact]
  | double => cases hwhole
  | string depth s =>
    rw [Fragment.written, ofFragment, Quoted.written_chars]
    exact congrArg (fun s => Except.ok (Json.string s)) String.ofList_toList
  | array _ ih =>
    have hitems := ofFragments_writtenItems fun item hitem =>
      ih item hitem (areWhole_iff.mp hwhole item hitem)
    rw [Fragment.written, ofFragment, hitems]
    rfl
  | object hsorted _ ih =>
    have hmembers := ofMembers_writtenMembers [] hsorted fun member hmember =>
      ih member hmember (haveWhole_iff.mp hwhole member hmember)
    rw [Fragment.written, ofFragment, hmembers]
    rfl

end DataGrid.Json
