/-!
# Text inside markup

Text is escaped before it enters markup: the five characters with a meaning there are
written as entities. The entities can be read back, so nothing of the text is lost.

## Main definitions

* `escapeChar`, `escapeChars`: the written form of a character and of a text
* `escape`, `escapeReporting`: a text made safe, and whether it had to be changed
* `decodeEntities`: the text that a written form stands for
-/

namespace DataGrid.Markup

/-- The characters with a meaning in markup. -/
def isSpecial (c : Char) : Bool :=
  c == '&' || c == '<' || c == '>' || c == '"' || c == '\''

/-- The entity of a special character, and any other character itself. -/
def escapeChar : Char → List Char
  | '&' => ['&', 'a', 'm', 'p', ';']
  | '<' => ['&', 'l', 't', ';']
  | '>' => ['&', 'g', 't', ';']
  | '"' => ['&', 'q', 'u', 'o', 't', ';']
  | '\'' => ['&', '#', 'x', '2', '7', ';']
  | c => [c]

/-- The written form of a text. -/
def escapeChars (s : List Char) : List Char := s.flatMap escapeChar

/-- A text made safe for markup, with the knowledge whether it was safe already. -/
structure Escaped where
  /-- The safe text. -/
  text : String
  /-- Whether no character had to be escaped. -/
  unchanged : Bool
  deriving Repr, DecidableEq

/-- A text without special characters is handed on as it is, any other one is written anew. -/
def escapeReporting (s : String) : Escaped :=
  if s.toList.any isSpecial then ⟨String.ofList (escapeChars s.toList), false⟩ else ⟨s, true⟩

/-- **Escaping.** A text made safe for markup. -/
def escape (s : String) : String := (escapeReporting s).text

/-- The text that a written form stands for: the five entities are read from the left, and
every other character stands for itself. -/
def decodeEntities : List Char → List Char
  | '&' :: 'a' :: 'm' :: 'p' :: ';' :: rest => '&' :: decodeEntities rest
  | '&' :: 'l' :: 't' :: ';' :: rest => '<' :: decodeEntities rest
  | '&' :: 'g' :: 't' :: ';' :: rest => '>' :: decodeEntities rest
  | '&' :: 'q' :: 'u' :: 'o' :: 't' :: ';' :: rest => '"' :: decodeEntities rest
  | '&' :: '#' :: 'x' :: '2' :: '7' :: ';' :: rest => '\'' :: decodeEntities rest
  | c :: rest => c :: decodeEntities rest
  | [] => []

end DataGrid.Markup
