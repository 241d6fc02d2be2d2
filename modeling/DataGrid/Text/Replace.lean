/-!
# Replacing a text inside a text

Occurrences are found from the left and do not overlap. What is put in is not searched.

## Main definitions

* `stripStart`: what follows a text at the start of another
* `replaceAll`: every occurrence of a text exchanged for another
-/

namespace DataGrid.Text

/-- What follows `target` at the start of a text, if the text starts with it. -/
def stripStart : List Char → List Char → Option (List Char)
  | [], s => some s
  | _ :: _, [] => none
  | t :: target, c :: s => if t = c then stripStart target s else none

theorem stripStart_eq_some {target s rest : List Char} :
    stripStart target s = some rest ↔ s = target ++ rest := by
  induction target generalizing s with
  | nil => simp [stripStart, eq_comm]
  | cons t target ih =>
    cases s with
    | nil => simp [stripStart]
    | cons c s =>
      by_cases h : t = c
      · simp [stripStart, h, ih]
      · simp [stripStart, h, Ne.symm h]

/-- Every occurrence of the text `t :: target` exchanged for `replacement`. -/
def replaceAll (t : Char) (target replacement : List Char) : List Char → List Char
  | [] => []
  | c :: s =>
    if c = t then
      match _h : stripStart target s with
      | some rest => replacement ++ replaceAll t target replacement rest
      | none => c :: replaceAll t target replacement s
    else c :: replaceAll t target replacement s
termination_by s => s.length
decreasing_by
  · simp only [stripStart_eq_some.mp _h, List.length_cons, List.length_append]
    omega
  · simp
  · simp

/-- **Replacement.** Every occurrence of a nonempty text exchanged for another one. -/
def replace (target replacement s : String) : String :=
  match target.toList with
  | [] => s
  | t :: rest => String.ofList (replaceAll t rest replacement.toList s.toList)

end DataGrid.Text
