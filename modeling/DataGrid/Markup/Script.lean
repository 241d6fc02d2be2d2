import DataGrid.Markup.Escape

/-!
# Text inside a script string inside markup

A confirmation prompt stands in a single-quoted script string, which itself stands in an
attribute. The text is quoted for the script first and escaped for the markup second.

## Main definitions

* `quoteChar`, `quoteChars`: backslash and single quote are preceded by a backslash
* `unquote`: a left-to-right reading in which a backslash takes the next character
* `escapeScript`: both steps on a text
-/

namespace DataGrid.Markup

/-- A backslash precedes a backslash and a single quote. -/
def quoteChar : Char → List Char
  | '\\' => ['\\', '\\']
  | '\'' => ['\\', '\'']
  | c => [c]

/-- The body of a single-quoted script string that stands for a text. -/
def quoteChars (s : List Char) : List Char := s.flatMap quoteChar

/-- The text that the body of a single-quoted string stands for. A backslash takes the next
character as it is; a quote that is not taken ends the string early, and a backslash with
nothing after it leaves the string open, so neither has a reading. -/
def unquote : List Char → Option (List Char)
  | [] => some []
  | ['\\'] => none
  | '\\' :: c :: rest => (unquote rest).map (c :: ·)
  | '\'' :: _ => none
  | c :: rest => (unquote rest).map (c :: ·)

/-- **Prompt text.** A text for a single-quoted script string inside an attribute. -/
def escapeScript (s : String) : String := escape (String.ofList (quoteChars s.toList))

end DataGrid.Markup
