import DataGrid.Proofs.Formatter.Confirmation
import DataGrid.Proofs.Markup.ScriptLiteral
import DataGrid.Proofs.Markup.ScriptString

/-!
# Calls that ask a prompt

A delete icon runs a script when it is clicked: a call with the prompt as a string. The call can be
read where the prompt is the body of a string. Quotes and backslashes of the prompt are quoted, but
its line breaks are not, and a string ends with its line. So a prompt of one line is asked, and the
icon of a longer one has no call.

## Main definitions

* `HasPromptCall`: delete icons that run a call with one string

## Main results

* `hasPromptCall_iff`: the call is there where its string has a body
* `Formatter.hasPromptCall_deleteLink_iff`: which prompts are asked by a call
* `Formatter.isLiteralBody_escapeScript_iff`: prompts in scripts, and in the calls of delete icons
-/

namespace DataGrid

open Markup Text

namespace Markup

/-- **Call with a prompt.** The click handler of a delete icon is a call with one string. -/
def HasPromptCall (html : String) : Prop :=
  ∃ body, clickHandler? html = some (callStart ++ (body ++ callEnd)) ∧ IsLiteralBody body

/-- The call is there just where its string has a body. -/
theorem hasPromptCall_iff {html : String} {body rest : List Char}
    (h : html.toList = clickStart ++ callStart ++
      (escapeChars body ++ (callEnd ++ addressStart ++ rest))) :
    HasPromptCall html ↔ IsLiteralBody body := by
  rw [HasPromptCall, clickHandler?_of_toList h]
  constructor
  · rintro ⟨other, hhandler, hother⟩
    have hbody := List.append_cancel_right (List.append_cancel_left (Option.some.inj hhandler))
    exact hbody ▸ hother
  · intro hbody
    exact ⟨body, rfl, hbody⟩

end Markup

namespace Formatter

variable {ρ : Type} (url : ρ → String) (row : ρ) (v : Value) (ctx : Context)

/-- A prompt without a place for an address is left as it is. -/
theorem fillUrl_of_notInfix {message : String} (h : ¬ "\x7burl\x7d".toList <:+: message.toList)
    (address : String) : fillUrl message address = message := by
  have hkept := (replaceAll_addressTail_eq_self_iff address.toList message.toList).mpr (.inl h)
  rw [← String.toList_inj, toList_fillUrl, ← replaceAll_addressTail, hkept]

/-- The address in the places of a prompt is quoted with it, where there are such places only if
the address has nothing to quote. -/
theorem replaceAll_quoteChars_eq {address message : String}
    (h : ¬ "\x7burl\x7d".toList <:+: message.toList ∨
      ∀ c ∈ address.toList, c ≠ '\\' ∧ c ≠ '\'') :
    replaceAll '\x7b' addressTail address.toList (quoteChars message.toList) =
      quoteChars (fillUrl message address).toList := by
  rcases h with hnone | hplain
  · -- nothing is replaced, before quoting or behind it
    rw [fillUrl_of_notInfix hnone]
    exact (replaceAll_quoteChars_eq_iff address.toList message.toList).mpr (.inl hnone)
  · rw [toList_fillUrl, ← replaceAll_addressTail]
    exact replaceAll_quoteChars_of_plain hplain message.toList

/-- **Prompts that are asked by a call** have no line breaks, with the address in their places. -/
theorem hasPromptCall_deleteLink_iff {message : String}
    (hmessage : ctx.messages.message deletePromptKey [] = message)
    (h : ¬ "\x7burl\x7d".toList <:+: message.toList ∨
      ∀ c ∈ (url row).toList, c ≠ '\\' ∧ c ≠ '\'') :
    HasPromptCall ((deleteLink url).apply row v ctx) ↔
      ∀ c ∈ (fillUrl message (url row)).toList, ¬ isLineBreak c := by
  rw [hasPromptCall_iff (toList_apply_deleteLink url row v ctx), hmessage,
    replaceAll_quoteChars_eq h, isLiteralBody_quoteChars_iff]

/-- **Prompts in scripts.** In a prompt that is read back from markup, every single quote is taken
and no backslash is left over, and so it is the body of a script string just where the text has no
line break. The click handler of a delete icon is then a call with this string, unless the prompt
has places for an address that has something to quote. -/
theorem isLiteralBody_escapeScript_iff :
    (∀ message : String,
      IsBodyOf (decodeEntities (escapeScript message).toList) message.toList ∧
        (IsLiteralBody (decodeEntities (escapeScript message).toList) ↔
          ∀ c ∈ message.toList, ¬ isLineBreak c)) ∧
      ∀ (url : ρ → String) (row : ρ) (v : Value) (ctx : Context) (message : String),
        ctx.messages.message deletePromptKey [] = message →
          (¬ "\x7burl\x7d".toList <:+: message.toList ∨
            ∀ c ∈ (url row).toList, c ≠ '\\' ∧ c ≠ '\'') →
          (HasPromptCall ((deleteLink url).apply row v ctx) ↔
            ∀ c ∈ (fillUrl message (url row)).toList, ¬ isLineBreak c) := by
  refine ⟨fun message => ?_, fun url row v ctx message hmessage h =>
    hasPromptCall_deleteLink_iff url row v ctx hmessage h⟩
  rw [toList_escapeScript, decodeEntities_escapeChars]
  exact ⟨isBodyOf_quoteChars message.toList, isLiteralBody_quoteChars_iff message.toList⟩

/-- The key of a prompt has neither places nor line breaks, so a call asks it. -/
theorem hasPromptCall_echoIcon :
    ¬ "\x7burl\x7d".toList <:+: deletePromptKey.toList ∧ HasPromptCall (echoIcon "/x") := by
  have hkey : ¬ "\x7burl\x7d".toList <:+: deletePromptKey.toList := by decide +kernel
  have hline : deletePromptKey.toList.any isLineBreak = false := by decide +kernel
  have hcall := isLiteralBody_escapeScript_iff.2 (fun _ : Unit => "/x") () .null ⟨{}, .echo⟩
    deletePromptKey rfl (.inl hkey)
  rw [fillUrl_of_notInfix hkey] at hcall
  exact ⟨hkey, hcall.mpr (List.any_eq_false.mp hline)⟩

/-- A prompt of two lines. -/
def longPrompt : String := "Delete it?\nIt cannot be restored."

/-- A catalog with this prompt. -/
def longCatalog : Catalog := { locale := "en", templates := [(deletePromptKey, longPrompt)] }

/-- **A prompt of two lines** is no body of a script string, and its delete icon has no call. -/
theorem not_hasPromptCall_longPrompt :
    ¬ IsLiteralBody (decodeEntities (escapeScript longPrompt).toList) ∧
      longCatalog.message deletePromptKey [] = longPrompt ∧
      ¬ HasPromptCall
        ((deleteLink fun _ : Unit => "/x").apply () .null ⟨{}, longCatalog.resolver⟩) := by
  have hline : '\n' ∈ longPrompt.toList := by decide +kernel
  have hmessage : longCatalog.resolver.message deletePromptKey [] = longPrompt := by decide +kernel
  refine ⟨?_, hmessage, ?_⟩
  · rw [toList_escapeScript, decodeEntities_escapeChars, isLiteralBody_quoteChars_iff]
    exact fun h => h '\n' hline rfl
  · have hplace : ¬ "\x7burl\x7d".toList <:+: longPrompt.toList := by decide +kernel
    rw [hasPromptCall_deleteLink_iff _ _ _ _ hmessage (.inl hplace), fillUrl_of_notInfix hplace]
    exact fun h => h '\n' hline rfl

end Formatter

end DataGrid
