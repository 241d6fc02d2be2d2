import DataGrid.Dictionary
import Mathlib.Data.List.Induction
import Mathlib.Data.List.Nodup
import Mathlib.Data.String.Basic

/-!
# Dictionaries as finite maps

A dictionary is sorted by its names, so it holds each name once and is known by what is looked
up in it.

## Main definitions

* `Dictionary.Sorted`: names stand in increasing order

## Main results

* `Dictionary.sorted_insert`, `Dictionary.sorted_ofList`: dictionaries are built sorted
* `Dictionary.ofList_of_sorted`: a sorted list is a dictionary
* `Dictionary.lookup_insert`, `Dictionary.lookup_ofList`: the last entry of a name counts
* `Dictionary.lookup_eq_some_iff_mem`: in a sorted dictionary, entries are what is looked up
* `Dictionary.perm_ofList`: entries of different names are all kept
-/

namespace DataGrid.Dictionary

variable {α : Type} {name other : String} {value : α} {entries : Dictionary α}

/-- **Sorted.** The names stand in increasing order. -/
def Sorted (entries : Dictionary α) : Prop := entries.Pairwise fun a b => a.1 < b.1

theorem lookup_cons (name : String) (entry : String × α) (entries : Dictionary α) :
    List.lookup name (entry :: entries) =
      if name = entry.1 then some entry.2 else entries.lookup name := by
  rw [List.lookup_cons]
  by_cases h : name = entry.1
  · rw [if_pos h, beq_iff_eq.mpr h]
  · rw [if_neg h, beq_eq_false_iff_ne.mpr h]

theorem ne_of_nodup_cons {entry : String × α} (hnodup : ((entry :: entries).map Prod.fst).Nodup) :
    ∀ other ∈ entries, other.1 ≠ entry.1 :=
  fun other hother heq => (List.nodup_cons.mp hnodup).1 (List.mem_map.mpr ⟨other, hother, heq⟩)

theorem mem_of_lookup (h : entries.lookup name = some value) : (name, value) ∈ entries := by
  obtain ⟨before, after, hentries, -⟩ := List.lookup_eq_some_iff.mp h
  simp [hentries]

/-! ## Putting entries in -/

theorem mem_insert {entry : String × α} (h : entry ∈ insert name value entries) :
    entry = (name, value) ∨ entry ∈ entries := by
  induction entries with
  | nil => simpa [insert] using h
  | cons head rest ih =>
    rw [insert] at h
    split_ifs at h with hlt heq
    · -- the entry is put before the head
      exact List.mem_cons.mp h
    · -- the entry takes the place of the head
      exact (List.mem_cons.mp h).imp_right (List.mem_cons_of_mem _)
    · -- the entry goes behind the head
      rcases List.mem_cons.mp h with rfl | h
      · exact .inr List.mem_cons_self
      · exact (ih h).imp_right (List.mem_cons_of_mem _)

/-- Putting an entry in keeps a dictionary sorted. -/
theorem sorted_insert (hsorted : Sorted entries) : Sorted (insert name value entries) := by
  induction entries with
  | nil => exact List.pairwise_singleton _ _
  | cons head rest ih =>
    obtain ⟨hhead, hrest⟩ := List.pairwise_cons.mp hsorted
    rw [insert]
    split_ifs with hlt heq
    · -- put before the head, it stands before all entries
      refine List.pairwise_cons.mpr ⟨fun entry hentry => ?_, hsorted⟩
      rcases List.mem_cons.mp hentry with rfl | hentry
      · exact hlt
      · exact lt_trans hlt (hhead entry hentry)
    · exact List.pairwise_cons.mpr ⟨fun entry hentry => heq ▸ hhead entry hentry, hrest⟩
    · -- put behind the head, it leaves the head before all entries
      refine List.pairwise_cons.mpr ⟨fun entry hentry => ?_, ih hrest⟩
      rcases mem_insert hentry with rfl | hentry
      · exact lt_of_le_of_ne (not_lt.mp hlt) (Ne.symm heq)
      · exact hhead entry hentry

/-- An entry that is put in is found, and no other entry is touched. -/
theorem lookup_insert (name other : String) (value : α) (entries : Dictionary α) :
    (insert name value entries).lookup other =
      if other = name then some value else entries.lookup other := by
  induction entries with
  | nil => rw [insert, lookup_cons]
  | cons head rest ih =>
    obtain ⟨first, old⟩ := head
    by_cases hlt : name < first
    · rw [insert, if_pos hlt, lookup_cons]
    by_cases heq : name = first
    · subst heq
      rw [insert, if_neg hlt, if_pos rfl, lookup_cons, lookup_cons]
      split_ifs <;> rfl
    · -- the head is found first on both sides
      rw [insert, if_neg hlt, if_neg heq, lookup_cons, lookup_cons, ih]
      by_cases hfirst : other = first
      · rw [if_pos hfirst, if_pos hfirst, if_neg fun h => heq (h.symm.trans hfirst)]
      · rw [if_neg hfirst, if_neg hfirst]

/-! ## Dictionaries of lists -/

theorem ofList_concat (entries : List (String × α)) (entry : String × α) :
    ofList (entries ++ [entry]) = insert entry.1 entry.2 (ofList entries) := List.foldl_concat ..

/-- A dictionary that is built from a list is sorted. -/
theorem sorted_ofList (entries : List (String × α)) : Sorted (ofList entries) := by
  -- Induction from the end of the list: the last entry is the last one that is put in.
  induction entries using List.reverseRecOn with
  | nil => exact .nil
  | append_singleton entries entry ih =>
    rw [ofList_concat]
    exact sorted_insert ih

theorem mem_ofList {entry : String × α} {entries : List (String × α)}
    (h : entry ∈ ofList entries) : entry ∈ entries := by
  induction entries using List.reverseRecOn with
  | nil => exact h
  | append_singleton entries last ih =>
    rw [ofList_concat] at h
    rcases mem_insert h with rfl | h
    · exact List.mem_concat_self
    · exact List.mem_append_left _ (ih h)

/-- Of the entries of one name in a list the last one is found. -/
theorem lookup_ofList (name : String) (entries : List (String × α)) :
    (ofList entries).lookup name = entries.reverse.lookup name := by
  induction entries using List.reverseRecOn with
  | nil => rfl
  | append_singleton entries entry ih =>
    -- the last entry is found first on both sides
    rw [ofList_concat, lookup_insert, ih, List.reverse_concat, lookup_cons]

theorem insert_of_last (h : ∀ entry ∈ entries, entry.1 < name) :
    insert name value entries = entries ++ [(name, value)] := by
  induction entries with
  | nil => rfl
  | cons head rest ih =>
    have hhead := h head List.mem_cons_self
    rw [insert, if_neg hhead.not_gt, if_neg hhead.ne',
      ih fun entry hentry => h entry (List.mem_cons_of_mem _ hentry), List.cons_append]

/-- A sorted list is a dictionary as it stands. -/
theorem ofList_of_sorted (hsorted : Sorted entries) : ofList entries = entries := by
  induction entries using List.reverseRecOn with
  | nil => rfl
  | append_singleton entries entry ih =>
    -- the last entry of a sorted list is put behind those before it
    obtain ⟨hbefore, -, hlast⟩ := List.pairwise_append.mp hsorted
    rw [ofList_concat, ih hbefore]
    exact insert_of_last fun other hother => hlast other hother entry (List.mem_singleton_self _)

/-! ## Entries and lookups -/

theorem lookup_of_nodup (hnodup : (entries.map Prod.fst).Nodup) (h : (name, value) ∈ entries) :
    entries.lookup name = some value := by
  induction entries with
  | nil => cases h
  | cons head rest ih =>
    rcases List.mem_cons.mp h with rfl | h
    · exact List.lookup_cons_self
    · rw [lookup_cons, if_neg (ne_of_nodup_cons hnodup _ h)]
      exact ih hnodup.of_cons h

/-- Where names are all different, each entry is found in the dictionary. -/
theorem lookup_ofList_of_nodup (hnodup : (entries.map Prod.fst).Nodup) :
    (ofList entries).lookup name = some value ↔ (name, value) ∈ entries := by
  rw [lookup_ofList]
  constructor
  · exact fun h => List.mem_reverse.mp (mem_of_lookup h)
  · intro h
    refine lookup_of_nodup ?_ (List.mem_reverse.mpr h)
    rw [List.map_reverse]
    exact List.pairwise_reverse.mpr (hnodup.imp Ne.symm)

theorem Sorted.nodup (hsorted : Sorted entries) : (entries.map Prod.fst).Nodup :=
  List.pairwise_map.mpr (hsorted.imp fun h => h.ne)

/-- In a sorted dictionary, entries are what is looked up. -/
theorem lookup_eq_some_iff_mem (hsorted : Sorted entries) :
    entries.lookup name = some value ↔ (name, value) ∈ entries :=
  ⟨mem_of_lookup, lookup_of_nodup hsorted.nodup⟩

/-- Where names are all different, the dictionary holds the entries and no others. -/
theorem perm_ofList (hnodup : (entries.map Prod.fst).Nodup) : (ofList entries).Perm entries := by
  have hsorted := sorted_ofList entries
  refine (List.perm_ext_iff_of_nodup (.of_map _ hsorted.nodup) (.of_map _ hnodup)).mpr ?_
  rintro ⟨name, value⟩
  rw [← lookup_eq_some_iff_mem hsorted, lookup_ofList_of_nodup hnodup]

theorem Sorted.pairwise_namesWhere (hsorted : Sorted entries) (p : α → Bool) :
    (namesWhere p entries).Pairwise (· < ·) :=
  List.pairwise_map.mpr (hsorted.sublist List.filter_sublist)

/-- The names of the entries that satisfy a predicate. -/
theorem mem_namesWhere (hsorted : Sorted entries) (p : α → Bool) :
    name ∈ namesWhere p entries ↔ ∃ value, entries.lookup name = some value ∧ p value := by
  simp only [namesWhere, List.mem_map, List.mem_filter, lookup_eq_some_iff_mem hsorted]
  constructor
  · rintro ⟨⟨_, value⟩, ⟨hmem, hp⟩, rfl⟩
    exact ⟨value, hmem, hp⟩
  · rintro ⟨value, hmem, hp⟩
    exact ⟨(name, value), ⟨hmem, hp⟩, rfl⟩

end DataGrid.Dictionary
