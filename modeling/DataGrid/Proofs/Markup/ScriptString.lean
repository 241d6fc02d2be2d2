import DataGrid.Proofs.Markup.Escape
import DataGrid.Proofs.Text.Replace

/-!
# Script strings are not left early

The body of a single-quoted script string is scanned from the left, and a backslash takes the
character behind it. A quoted text is a body in which every single quote is taken and the last
backslash has something to take, whatever runs of backslashes and quotes the text has. Without the
backslashes that take, the body is the text again.

## Main definitions

* `takesNext`: whether the scan takes the next character
* `dropTaking`: a body without the backslashes that take
* `IsBodyOf`: the bodies of script strings, with the texts that they stand for

## Main results

* `unquote_eq_some_iff`: what is read is a body, and it is read as the text that it stands for
* `escapeScript_eq_replace`: quoting is one replacement after another
* `isBodyOf_escapeScript`: a prompt is a body that stands for its text
-/

namespace DataGrid.Markup

/-! ## The scan -/

/-- Whether a scanned character takes the next one: it is a backslash that is not taken itself. -/
def takes (taken : Bool) (c : Char) : Bool := !taken && c == '\\'

/-- **Scan.** Whether the character behind a part of a body is taken. -/
def takesNext (part : List Char) : Bool := part.foldl takes false

/-- What is left of a body without the backslashes that take a character. -/
def dropTaking (taken : Bool) : List Char → List Char
  | [] => []
  | c :: rest => if takes taken c then dropTaking true rest else c :: dropTaking false rest

/-- **Body of a script string.** Every single quote in the body is taken, no backslash at its end is
left to take something, and without the backslashes that take it is the text. -/
structure IsBodyOf (body text : List Char) : Prop where
  quotes : ∀ before after, body = before ++ '\'' :: after → takesNext before
  closed : takesNext body = false
  text_eq : dropTaking false body = text

variable {body text : List Char} {c : Char}

/-! ## One step -/

theorem takesNext_plain (hslash : c ≠ '\\') (part : List Char) :
    takesNext (c :: part) = takesNext part := by
  rw [takesNext, List.foldl_cons, takes, beq_eq_false_iff_ne.mpr hslash]
  rfl

/-- A backslash takes the character behind it, also a quote. -/
theorem isBodyOf_taken_iff :
    IsBodyOf ('\\' :: c :: body) text ↔ ∃ rest, IsBodyOf body rest ∧ c :: rest = text := by
  -- behind a backslash and what it takes, the scan is as at the start
  constructor
  · rintro ⟨hquotes, hclosed, rfl⟩
    exact ⟨_, ⟨fun before after h => hquotes ('\\' :: c :: before) after (by rw [h]; rfl),
      hclosed, rfl⟩, rfl⟩
  · rintro ⟨rest, ⟨hquotes, hclosed, rfl⟩, rfl⟩
    refine ⟨fun before after h => ?_, hclosed, rfl⟩
    rcases before with - | ⟨b, - | ⟨b', before⟩⟩
    · simp at h
    · -- the quote is the character that is taken
      obtain ⟨rfl, -⟩ := List.cons.inj h
      rfl
    · simp only [List.cons_append, List.cons.injEq] at h
      obtain ⟨rfl, rfl, h⟩ := h
      exact hquotes before after h

/-- Any other character but a quote stands for itself. -/
theorem isBodyOf_plain_iff (hslash : c ≠ '\\') (hquote : c ≠ '\'') :
    IsBodyOf (c :: body) text ↔ ∃ rest, IsBodyOf body rest ∧ c :: rest = text := by
  have hdrop : dropTaking false (c :: body) = c :: dropTaking false body := by
    rw [dropTaking, takes, beq_eq_false_iff_ne.mpr hslash]
    rfl
  constructor
  · rintro ⟨hquotes, hclosed, rfl⟩
    refine ⟨_, ⟨fun before after h => ?_, ?_, rfl⟩, hdrop.symm⟩
    · rw [← takesNext_plain hslash]
      exact hquotes (c :: before) after (by rw [h]; rfl)
    · rwa [takesNext_plain hslash] at hclosed
  · rintro ⟨rest, ⟨hquotes, hclosed, rfl⟩, rfl⟩
    refine ⟨fun before after h => ?_, by rwa [takesNext_plain hslash], hdrop⟩
    cases before with
    | nil => exact absurd (List.cons.inj h).1 hquote
    | cons b before =>
      rw [List.cons_append, List.cons.injEq] at h
      obtain ⟨rfl, h⟩ := h
      rw [takesNext_plain hslash]
      exact hquotes before after h

theorem not_isBodyOf_quote : ¬ IsBodyOf ('\'' :: body) text := fun h =>
  Bool.false_ne_true (h.quotes [] body rfl)

theorem not_isBodyOf_slash : ¬ IsBodyOf ['\\'] text := fun h => Bool.false_ne_true h.closed.symm

/-! ## Reading and writing -/

/-- **Reading.** A body is read just where the scan neither meets a quote that is not taken nor
ends behind a backslash, and then as the text that it stands for. -/
theorem unquote_eq_some_iff : unquote body = some text ↔ IsBodyOf body text := by
  fun_induction unquote body generalizing text with
  | case1 =>
    rw [Option.some.injEq]
    constructor
    · rintro rfl
      exact ⟨fun before after h => by simp at h, rfl, rfl⟩
    · exact IsBodyOf.text_eq
  | case2 => exact iff_of_false nofun not_isBodyOf_slash
  | case3 c rest ih => simp only [Option.map_eq_some_iff, ih, isBodyOf_taken_iff]
  | case4 => exact iff_of_false nofun not_isBodyOf_quote
  | case5 c rest hend htaken hquote ih =>
    have hslash : c ≠ '\\' := by
      rintro rfl
      cases rest with
      | nil => exact hend rfl rfl
      | cons d rest => exact htaken d rest rfl rfl
    simp only [Option.map_eq_some_iff, ih, isBodyOf_plain_iff hslash hquote]

/-- A quoted text is a body that stands for the text. -/
theorem isBodyOf_quoteChars (s : List Char) : IsBodyOf (quoteChars s) s :=
  unquote_eq_some_iff.mp (unquote_quoteChars s)

/-- Quoting is the replacement of backslashes and then of single quotes. In the other order the
backslashes in front of quotes would be replaced too. -/
theorem quoteChars_eq_replaceAll (s : List Char) :
    quoteChars s =
      Text.replaceAll '\'' [] ['\\', '\''] (Text.replaceAll '\\' [] ['\\', '\\'] s) := by
  rw [Text.replaceAll_nil_eq_flatMap, Text.replaceAll_nil_eq_flatMap, List.flatMap_assoc,
    quoteChars]
  refine List.flatMap_congr fun c _ => ?_
  unfold quoteChar
  split
  case h_3 hslash hquote =>
    rw [if_neg hslash, List.flatMap_singleton, if_neg hquote]
  all_goals rfl

theorem escapeScript_eq_replace (s : String) :
    escapeScript s = escape (Text.replace "'" "\\'" (Text.replace "\\" "\\\\" s)) := by
  have hslashes : (Text.replace "\\" "\\\\" s).toList =
      Text.replaceAll '\\' [] ['\\', '\\'] s.toList := Text.toList_replace rfl _ s
  have hquotes (t : String) : (Text.replace "'" "\\'" t).toList =
      Text.replaceAll '\'' [] ['\\', '\''] t.toList := Text.toList_replace rfl _ t
  rw [escapeScript, quoteChars_eq_replaceAll, ← hslashes, ← hquotes, String.ofList_toList]

/-- **Prompts stay inside.** When a prompt is read back from markup, the scan of the script string
meets no single quote that is not taken and does not end behind a backslash, and the text is all
that is left without the backslashes that take. -/
theorem isBodyOf_escapeScript (s : String) :
    IsBodyOf (decodeEntities (escapeScript s).toList) s.toList := by
  rw [toList_escapeScript, decodeEntities_escapeChars]
  exact isBodyOf_quoteChars s.toList

/-- A backslash and a quote behind each other take three backslashes. -/
example : (escapeScript "\\'").toList = "\\\\\\&#x27;".toList := by decide

end DataGrid.Markup
