import DataGrid.Formatter.Basic
import DataGrid.Proofs.Markup.Escape
import DataGrid.Proofs.Markup.Skeleton
import DataGrid.Proofs.Markup.Template

/-!
# Links that ask first

A link with a confirmation fills the places for its prompt first and those for its address second.
A prompt that has the text of a place in it loses that text: the address of the row stands there
instead, escaped for markup but not quoted for the script string around it.

## Main definitions

* `shownPrompt?`: what a delete icon asks, read back from its markup
* `clickHandler?`: the script that a delete icon runs, read back from its markup

## Main results

* `Formatter.toList_apply_deleteLink`: the markup of a delete icon
* `Formatter.shownPrompt?_deleteLink`: what a delete icon asks
* `Formatter.linkWithConfirmation_eq_fillPlaces_iff`: where the places are filled at once, and
  where the prompt is asked as it is
-/

namespace DataGrid

open Markup Text

namespace Markup

/-! ## The parts of a delete icon -/

/-- The start of the click attribute of a delete icon. -/
def clickStart : List Char := "<a onclick=\"".toList

/-- The call that asks a prompt, up to the quote in front of it. -/
def callStart : List Char := "return maf_confirmAction('".toList

/-- The end of that call. -/
def callEnd : List Char := "');".toList

/-- What stands between the click attribute of a delete icon and its address. -/
def addressStart : List Char := "\" href=\"".toList

/-- The rest of a delete icon. -/
def iconEnd : List Char := "\"><span class=\"fa fa-trash\"></span></a>".toList

theorem toList_deleteTemplate :
    deleteTemplate.toList = clickStart ++ (callStart ++ ('\x7b' :: (promptTail ++ (callEnd ++
      (addressStart ++ ('\x7b' :: (addressTail ++ iconEnd))))))) := by
  decide +kernel

theorem brace_notMem_start : '\x7b' ∉ clickStart ++ callStart := by decide +kernel

theorem brace_notMem_middle : '\x7b' ∉ callEnd ++ addressStart := by decide +kernel

theorem brace_notMem_iconEnd : '\x7b' ∉ iconEnd := by decide +kernel

theorem pieces_deleteTemplate :
    pieces deleteTemplate.toList = (clickStart ++ callStart).map .char ++ .prompt ::
      ((callEnd ++ addressStart).map .char ++ .address :: iconEnd.map .char) := by
  rw [toList_deleteTemplate, ← List.append_assoc, pieces_append_of_notMem brace_notMem_start,
    pieces_promptPlace, ← List.append_assoc callEnd, pieces_append_of_notMem brace_notMem_middle,
    pieces_addressPlace, pieces_of_notMem brace_notMem_iconEnd]

/-- A delete template with a text in place of each of its places. -/
theorem flatMap_fill_deleteTemplate (prompt address : List Char) :
    (pieces deleteTemplate.toList).flatMap (Piece.fill prompt address) =
      clickStart ++ callStart ++ (prompt ++ (callEnd ++ addressStart ++ (address ++ iconEnd))) := by
  rw [pieces_deleteTemplate, List.flatMap_append, List.flatMap_cons, List.flatMap_append,
    List.flatMap_cons, flatMap_fill_map_char, flatMap_fill_map_char, flatMap_fill_map_char]
  rfl

/-- **Shown prompt.** What a delete icon asks before it goes to its address. The click attribute is
read back from markup, and the prompt from the script string in it. There is none if the string
ends early. -/
def shownPrompt? (html : String) : Option String := do
  let markup ← stripStart clickStart html.toList
  let call ← stripStart callStart (decodeEntities (markup.takeWhile (· ≠ '"')))
  let body ← call.dropSuffix? callEnd
  (unquote body).map String.ofList

/-- **Click handler.** The script in the click attribute of a delete icon, read back from markup. -/
def clickHandler? (html : String) : Option (List Char) :=
  (stripStart clickStart html.toList).map fun markup =>
    decodeEntities (markup.takeWhile (· ≠ '"'))

theorem shownPrompt?_eq_bind (html : String) :
    shownPrompt? html = (clickHandler? html).bind fun handler =>
      (stripStart callStart handler).bind fun call =>
        (call.dropSuffix? callEnd).bind fun body => (unquote body).map String.ofList := by
  rw [shownPrompt?, clickHandler?]
  cases stripStart clickStart html.toList <;> rfl

section IconParts

variable {html : String} {body rest : List Char}

/-- The click attribute ends with the call: an escaped text has no quote. -/
theorem quote_notMem_call (body : List Char) :
    '"' ∉ callStart ++ (escapeChars body ++ callEnd) := by
  have hstart : '"' ∉ callStart := by decide +kernel
  have hend : '"' ∉ callEnd := by decide +kernel
  have hescaped : '"' ∉ escapeChars body := notMem_escapeChars_of_isDelimiter rfl body
  simp only [List.mem_append, hstart, hescaped, hend, or_self, not_false_iff]

/-- The handler is a call with a string that has the body between its quotes. -/
theorem clickHandler?_of_toList
    (h : html.toList = clickStart ++ callStart ++
      (escapeChars body ++ (callEnd ++ addressStart ++ rest))) :
    clickHandler? html = some (callStart ++ (body ++ callEnd)) := by
  have hclick : (callStart ++ (escapeChars body ++ (callEnd ++ (addressStart ++ rest)))).takeWhile
      (· ≠ '"') = callStart ++ (escapeChars body ++ callEnd) := by
    have haddress : addressStart = '"' :: addressStart.tail := by decide +kernel
    rw [haddress, ← List.append_assoc (escapeChars body), ← List.append_assoc callStart,
      List.takeWhile_append_of_pos, List.cons_append, List.takeWhile_cons_of_neg (by simp),
      List.append_nil]
    exact fun c hc => decide_eq_true fun heq => quote_notMem_call body (heq ▸ hc)
  have hcall : decodeEntities (callStart ++ (escapeChars body ++ callEnd)) =
      callStart ++ (body ++ callEnd) := by
    have hstart : '&' ∉ callStart := by decide +kernel
    have hend : decodeEntities callEnd = callEnd := by decide +kernel
    rw [decodeEntities_append_of_notMem hstart, decodeEntities_escapeChars_append, hend]
  rw [clickHandler?, h, List.append_assoc, List.append_assoc callEnd, stripStart_append,
    Option.map_some, hclick, hcall]

/-- The prompt is read back from the body of its script string. -/
theorem shownPrompt?_of_toList
    (h : html.toList = clickStart ++ callStart ++
      (escapeChars body ++ (callEnd ++ addressStart ++ rest))) :
    shownPrompt? html = (unquote body).map String.ofList := by
  have hbody : (body ++ callEnd).dropSuffix? callEnd = some body :=
    List.dropSuffix?_eq_some_iff.mpr ⟨callEnd, rfl, beq_self_eq_true _⟩
  rw [shownPrompt?_eq_bind, clickHandler?_of_toList h, Option.bind_some, stripStart_append,
    Option.bind_some, hbody, Option.bind_some]

end IconParts

/-! ## Written texts keep their places -/

/-- Escaping neither makes nor hides a place for an address. -/
theorem escapeChar_leavesAlone : LeavesAlone escapeChar '\x7b' addressTail where
  same := by
    simp only [addressTail, List.forall_mem_cons]
    exact ⟨rfl, rfl, rfl, rfl, rfl, List.forall_mem_nil _⟩
  other c hc := by
    unfold escapeChar
    split
    case h_6 => exact ⟨c, [], rfl, hc, List.not_mem_nil⟩
    all_goals exact ⟨_, _, rfl, by decide, by decide⟩

/-- Neither does quoting. -/
theorem quoteChar_leavesAlone : LeavesAlone quoteChar '\x7b' addressTail where
  same := by
    simp only [addressTail, List.forall_mem_cons]
    exact ⟨rfl, rfl, rfl, rfl, rfl, List.forall_mem_nil _⟩
  other c hc := by
    unfold quoteChar
    split
    case h_3 => exact ⟨c, [], rfl, hc, List.not_mem_nil⟩
    all_goals exact ⟨_, _, rfl, by decide, by decide⟩

end Markup

/-! ## Delete icons -/

namespace Formatter

variable {ρ : Type}

variable (url : ρ → String) (row : ρ) (v : Value) (ctx : Context)

/-- **The markup of a delete icon.** The places of its prompt are filled with the address. -/
theorem toList_apply_deleteLink :
    ((deleteLink url).apply row v ctx).toList =
      clickStart ++ callStart ++
        (escapeChars (replaceAll '\x7b' addressTail (url row).toList
            (quoteChars (ctx.messages.message deletePromptKey []).toList)) ++
          (callEnd ++ addressStart ++ ((escape (url row)).toList ++ iconEnd))) := by
  set message := ctx.messages.message deletePromptKey [] with hmessage
  -- the quote behind the prompt keeps the places of the prompt apart from that of the template
  have hcallEnd : callEnd = '\'' :: callEnd.tail := by decide +kernel
  have hwall : '\'' ∉ '\x7b' :: addressTail := by decide
  have hmiddle : '\x7b' ∉ callEnd.tail ++ addressStart := by
    intro h
    refine brace_notMem_middle ?_
    rw [hcallEnd]
    exact List.mem_cons_of_mem _ h
  have happly : ((deleteLink url).apply row v ctx).toList =
      replaceAll '\x7b' addressTail (escape (url row)).toList
        (clickStart ++ callStart ++ ((escapeScript message).toList ++
          (callEnd ++ addressStart ++ ('\x7b' :: addressTail ++ iconEnd)))) := by
    rw [← flatMap_fill_deleteTemplate, ← toList_fillMessage, replaceAll_addressTail,
      ← toList_fillUrl]
    rfl
  have hreplaced : replaceAll '\x7b' addressTail (escape (url row)).toList
        (escapeScript message).toList =
      escapeChars (replaceAll '\x7b' addressTail (url row).toList (quoteChars message.toList)) := by
    rw [toList_escapeScript, toList_escape]
    exact escapeChar_leavesAlone.replaceAll_flatMap _ _
  rw [happly, replaceAll_append_of_notMem brace_notMem_start, hcallEnd, List.cons_append,
    List.cons_append, replaceAll_append_cons hwall, hreplaced,
    replaceAll_append_of_notMem hmiddle, List.cons_append,
    replaceAll_cons_of_some (stripStart_append _ _), replaceAll_of_notMem brace_notMem_iconEnd]
  rfl

/-- **What a delete icon asks.** The places of the quoted prompt are filled with the address, which
is not quoted. -/
theorem shownPrompt?_deleteLink :
    shownPrompt? ((deleteLink url).apply row v ctx) =
      (unquote (replaceAll '\x7b' addressTail (url row).toList
        (quoteChars (ctx.messages.message deletePromptKey []).toList))).map String.ofList :=
  shownPrompt?_of_toList (toList_apply_deleteLink url row v ctx)

/-! ## Filling at once -/

/-- A quoted prompt is left as it is where it has no place for an address. -/
theorem replaceAll_quoteChars_eq_iff (address message : List Char) :
    replaceAll '\x7b' addressTail address (quoteChars message) = quoteChars message ↔
      ¬ '\x7b' :: addressTail <:+: message ∨ address = '\x7b' :: addressTail := by
  rw [replaceAll_addressTail_eq_self_iff, quoteChars, quoteChar_leavesAlone.infix_flatMap_iff]

/-- Escaping leaves the text of a place as it is. -/
theorem escape_eq_place_iff (address : String) :
    escape address = "\x7burl\x7d" ↔ address = "\x7burl\x7d" := by
  have hplace : escape "\x7burl\x7d" = "\x7burl\x7d" := by decide +kernel
  constructor
  · exact fun h => escape_injective (h.trans hplace.symm)
  · rintro rfl
    exact hplace

/-- A template for a prompt and an address is filled at once where the prompt makes up no place. -/
theorem apply_linkWithConfirmation_eq_fillPlaces (template key : String) :
    (linkWithConfirmation template key url).apply row v ctx =
        fillPlaces template (escapeScript (ctx.messages.message key [])) (escape (url row)) ↔
      addressPlaces (fillMessage template (escapeScript (ctx.messages.message key []))) =
          addressPlaces template ∨ url row = "\x7burl\x7d" := by
  rw [apply, fillUrl_fillMessage_eq_fillPlaces_iff, escape_eq_place_iff]

/-- So is a delete icon whose prompt has no place for an address. -/
theorem apply_deleteLink_eq_fillPlaces :
    (deleteLink url).apply row v ctx =
        fillPlaces deleteTemplate (escapeScript (ctx.messages.message deletePromptKey []))
          (escape (url row)) ↔
      ¬ "\x7burl\x7d".toList <:+: (ctx.messages.message deletePromptKey []).toList ∨
        url row = "\x7burl\x7d" := by
  rw [← String.toList_inj, toList_apply_deleteLink, fillPlaces, String.toList_ofList,
    flatMap_fill_deleteTemplate, List.append_cancel_left_eq, List.append_cancel_right_eq,
    toList_escapeScript, escapeChars_injective.eq_iff, replaceAll_quoteChars_eq_iff,
    ← String.toList_inj]
  rfl

/-- A prompt without a place for an address is asked as it is. -/
theorem shownPrompt?_deleteLink_of_notInfix
    (h : ¬ "\x7burl\x7d".toList <:+: (ctx.messages.message deletePromptKey []).toList ∨
      url row = "\x7burl\x7d") :
    shownPrompt? ((deleteLink url).apply row v ctx) =
      some (ctx.messages.message deletePromptKey []) := by
  have hkept := (replaceAll_quoteChars_eq_iff (url row).toList
    (ctx.messages.message deletePromptKey []).toList).mpr (h.imp_right (congrArg String.toList))
  rw [shownPrompt?_deleteLink, hkept, unquote_quoteChars, Option.map_some, String.ofList_toList]

/-- An address without backslashes and quotes is put into a quoted prompt as into the prompt. -/
theorem replaceAll_quoteChars_of_plain {address : List Char}
    (h : ∀ c ∈ address, c ≠ '\\' ∧ c ≠ '\'') (message : List Char) :
    replaceAll '\x7b' addressTail address (quoteChars message) =
      quoteChars (replaceAll '\x7b' addressTail address message) := by
  have hplain : address.flatMap quoteChar = address := by
    have hchar : ∀ c ∈ address, quoteChar c = [c] := by
      intro c hc
      obtain ⟨hslash, hquote⟩ := h c hc
      unfold quoteChar
      split
      · exact absurd rfl hslash
      · exact absurd rfl hquote
      · rfl
    rw [List.flatMap_congr hchar, List.flatMap_singleton']
  have hreplaced := quoteChar_leavesAlone.replaceAll_flatMap address message
  rwa [hplain] at hreplaced

/-- An address without backslashes and quotes stands in the places of the prompt as it is. -/
theorem shownPrompt?_deleteLink_of_plain
    (h : ∀ c ∈ (url row).toList, c ≠ '\\' ∧ c ≠ '\'') :
    shownPrompt? ((deleteLink url).apply row v ctx) =
      some (fillUrl (ctx.messages.message deletePromptKey []) (url row)) := by
  rw [shownPrompt?_deleteLink, replaceAll_quoteChars_of_plain h, unquote_quoteChars]
  rfl

/-- **Links that ask first fill their places at once** just where the prompt, with the template
around it, makes up no place for an address. For a delete icon this is where the prompt has no such
place itself, and then the prompt is asked as it is. Any other prompt is asked with the address in
its places. -/
theorem linkWithConfirmation_eq_fillPlaces_iff :
    (∀ (template key : String) (url : ρ → String) (row : ρ) (v : Value) (ctx : Context),
      (linkWithConfirmation template key url).apply row v ctx =
          fillPlaces template (escapeScript (ctx.messages.message key [])) (escape (url row)) ↔
        addressPlaces (fillMessage template (escapeScript (ctx.messages.message key []))) =
            addressPlaces template ∨ url row = "\x7burl\x7d") ∧
      ∀ (url : ρ → String) (row : ρ) (v : Value) (ctx : Context) (message : String),
        ctx.messages.message deletePromptKey [] = message →
          ((deleteLink url).apply row v ctx =
              fillPlaces deleteTemplate (escapeScript message) (escape (url row)) ↔
            ¬ "\x7burl\x7d".toList <:+: message.toList ∨ url row = "\x7burl\x7d") ∧
          (¬ "\x7burl\x7d".toList <:+: message.toList ∨ url row = "\x7burl\x7d" →
            shownPrompt? ((deleteLink url).apply row v ctx) = some message) ∧
          ((∀ c ∈ (url row).toList, c ≠ '\\' ∧ c ≠ '\'') →
            shownPrompt? ((deleteLink url).apply row v ctx) =
              some (fillUrl message (url row))) := by
  refine ⟨fun template key url row v ctx =>
    apply_linkWithConfirmation_eq_fillPlaces url row v ctx template key, ?_⟩
  rintro url row v ctx _ rfl
  exact ⟨apply_deleteLink_eq_fillPlaces url row v ctx,
    shownPrompt?_deleteLink_of_notInfix url row v ctx,
    shownPrompt?_deleteLink_of_plain url row v ctx⟩

/-- A delete icon that asks the key of its prompt. -/
def echoIcon (address : String) : String :=
  (deleteLink fun _ : Unit => address).apply () .null ⟨{}, .echo⟩

/-- The key has no place for an address, so it is asked as it is. -/
theorem shownPrompt?_echoIcon :
    ¬ "\x7burl\x7d".toList <:+: deletePromptKey.toList ∧
      (∀ c ∈ "/x".toList, c ≠ '\\' ∧ c ≠ '\'') ∧
      echoIcon "/x" = fillPlaces deleteTemplate (escapeScript deletePromptKey) (escape "/x") ∧
      shownPrompt? (echoIcon "/x") = some deletePromptKey ∧
      shownPrompt? (echoIcon "/x") = some (fillUrl deletePromptKey "/x") := by
  have hkey : ¬ "\x7burl\x7d".toList <:+: deletePromptKey.toList := by decide +kernel
  have hplain : ∀ c ∈ "/x".toList, c ≠ '\\' ∧ c ≠ '\'' := by
    have hchars : "/x".toList = ['/', 'x'] := by decide +kernel
    simp only [hchars, List.forall_mem_cons]
    exact ⟨by decide, by decide, List.forall_mem_nil _⟩
  obtain ⟨hfill, hshown, hplaces⟩ := linkWithConfirmation_eq_fillPlaces_iff.2
    (fun _ : Unit => "/x") () .null ⟨{}, .echo⟩ deletePromptKey rfl
  exact ⟨hkey, hplain, hfill.mpr (.inl hkey), hshown (.inl hkey), hplaces hplain⟩

/-- A catalog whose prompt has the text of a place in it. -/
def placeCatalog : Catalog :=
  { locale := "en", templates := [(deletePromptKey, "Delete \x7burl\x7d?")] }

/-- A delete icon with the prompt of that catalog. -/
def placeIcon (address : String) : String :=
  (deleteLink fun _ : Unit => address).apply () .null ⟨{}, placeCatalog.resolver⟩

/-- The icon asks with the address in its prompt, and not at all if the address has a quote. -/
theorem placeIcon_ne_fillPlaces :
    placeCatalog.message deletePromptKey [] = "Delete \x7burl\x7d?" ∧
      placeIcon "/x" ≠
        fillPlaces deleteTemplate (escapeScript "Delete \x7burl\x7d?") (escape "/x") ∧
      shownPrompt? (placeIcon "/x") = some "Delete /x?" ∧ shownPrompt? (placeIcon "/'x") = none := by
  have hmessage : placeCatalog.resolver.message deletePromptKey [] = "Delete \x7burl\x7d?" := by
    decide +kernel
  refine ⟨hmessage, fun hfill => ?_, ?_, ?_⟩
  · -- the prompt has the text of a place in it
    have hplace : "\x7burl\x7d".toList <:+: "Delete \x7burl\x7d?".toList :=
      ⟨"Delete ".toList, ['?'], by decide +kernel⟩
    rw [← hmessage] at hfill hplace
    rcases (apply_deleteLink_eq_fillPlaces (fun _ : Unit => "/x") () .null
      ⟨{}, placeCatalog.resolver⟩).mp hfill with hnone | haddress
    · exact hnone hplace
    · exact absurd haddress (by decide)
  · rw [placeIcon, shownPrompt?_deleteLink, hmessage]
    decide +kernel
  · rw [placeIcon, shownPrompt?_deleteLink, hmessage]
    decide +kernel

end Formatter

end DataGrid
