import DataGrid.Toml.Document
import DataGrid.Toml.Token

/-!
# Reading TOML

The tokens of a text are taken one by one. Between two of them there is a document under
construction, and a stack of the arrays and inline tables that are open.

## Main definitions

* `Awaited`, `State`: what may come next, and what has been read
* `State.step`: the state after one more token
* `read?`: the members of the table that a text stands for
-/

namespace DataGrid.Toml

/-- What a key is read for. -/
inductive Purpose where
  | pair
  | table
  | item
  deriving Repr, DecidableEq

/-- What may come next. The parts of a key stand in reverse. -/
inductive Awaited where
  /-- A line. -/
  | line
  /-- The rest of a header behind its first bracket. -/
  | header
  /-- A part of a key. -/
  | part (parts : List String)
  /-- A dot or the end of a key. -/
  | keyEnd (parts : List String)
  /-- The equals sign of a pair, on a later line than its key. -/
  | equals (parts : List String)
  /-- The second bracket that closes the header of an item. -/
  | headerEnd
  | value
  | itemOrEnd
  | memberOrEnd
  | separator
  | lineEnd
  deriving Repr, DecidableEq

/-- An array or an inline table that is open. The items stand in reverse; the key belongs to
the pair that is being read. -/
inductive Frame where
  | array (items : List Value)
  | table (members : Members) (key : Key)
  deriving Repr

/-- **State.** -/
structure State where
  document : Document := {}
  purpose : Purpose := .pair
  /-- The key of the pair of the document that is being read. -/
  key : Key := ⟨[], ""⟩
  stack : List Frame := []
  awaited : Awaited := .line
  deriving Repr

/-- How many arrays and inline tables may be open, and how many names may lead to the last one
of a key. -/
def nestingLimit : Nat := 80

/-- Whether a character may stand in a key without quotes. -/
def isBare (c : Char) : Bool := c.isAlphanum || c == '_' || c == '-'

/-- What is awaited after pieces of a key that have dots between them. Behind a last dot a
part has to follow. -/
def readPieces? (parts : List String) : List (List Char) → Option Awaited
  | [] => some (.keyEnd parts)
  | [[]] => some (.part parts)
  | piece :: rest =>
    if !piece.isEmpty && piece.all isBare then readPieces? (String.ofList piece :: parts) rest
    else none

namespace State

/-- Whether an inline table is the innermost that is open. Its pairs may be broken into lines
around the equals sign. -/
def inTable (s : State) : Bool :=
  match s.stack with
  | .table _ _ :: _ => true
  | _ => false

/-- The state after a complete value. -/
def give? (s : State) (v : Value) : Option State :=
  match s.stack with
  | [] => do
    return { s with document := ← s.document.addPair s.key v, awaited := .lineEnd }
  | .array items :: outer =>
    some { s with stack := .array (v :: items) :: outer, awaited := .separator }
  | .table members key :: outer => do
    let members ← Node.addPair key v .header members
    return { s with stack := .table members key :: outer, awaited := .separator }

/-- The state after the bracket that closes an array. -/
def closeArray? (s : State) : Option State :=
  match s.stack with
  | .array items :: outer => { s with stack := outer }.give? (.array items.reverse)
  | _ => none

/-- The state after the bracket that closes an inline table. -/
def closeTable? (s : State) : Option State :=
  match s.stack with
  | .table members _ :: outer =>
    { s with stack := outer }.give? (.table (Node.valuesOf members))
  | _ => none

/-- The state after a bracket that opens an array or an inline table. -/
def open? (s : State) (frame : Frame) (awaited : Awaited) : Option State :=
  if s.stack.length < nestingLimit then
    some { s with stack := frame :: s.stack, awaited }
  else none

/-- The state after the first token of a value. -/
def readValue? (s : State) (token : Token) : Option State :=
  match token with
  | .word chars => do s.give? (← Value.ofWord? chars)
  | .text chars | .lines chars => s.give? (.text (String.ofList chars))
  | .openArray => s.open? (.array []) .itemOrEnd
  | .openTable => s.open? (.table [] ⟨[], ""⟩) .memberOrEnd
  | _ => none

/-- The state after a token where a part of a key is awaited. -/
def readPart? (s : State) (parts : List String) (token : Token) : Option State :=
  match token with
  | .blank => some { s with awaited := .part parts }
  | .text chars => some { s with awaited := .keyEnd (String.ofList chars :: parts) }
  | .word chars => do return { s with awaited := ← readPieces? parts (chars.splitOn '.') }
  | _ => none

/-- The state after a key and the token that ends it. -/
def endKey? (s : State) (key : Key) (token : Token) : Option State :=
  if nestingLimit ≤ key.path.length then none
  else
    match s.stack, s.purpose, token with
    | .table members _ :: outer, _, .equals =>
      some { s with stack := .table members key :: outer, awaited := .value }
    | [], .pair, .equals => some { s with key, awaited := .value }
    | [], .table, .closeArray => do
      return { s with document := ← s.document.openTable key, awaited := .lineEnd }
    | [], .item, .closeArray => do
      return { s with document := ← s.document.openItem key, awaited := .headerEnd }
    | _, _, _ => none

/-- The state after a token where a comma or a closing bracket is awaited. -/
def separate? (s : State) (token : Token) : Option State :=
  match s.stack, token with
  | .array _ :: _, .comma => some { s with awaited := .itemOrEnd }
  | .table _ _ :: _, .comma => some { s with awaited := .memberOrEnd }
  | .array _ :: _, .closeArray => s.closeArray?
  | .table _ _ :: _, .closeTable => s.closeTable?
  | _, _ => none

/-- **Step.** The state after one more token. The two brackets of the header of an item have
nothing between them; everywhere else blanks may stand between tokens. -/
def step (s : State) (token : Token) : Option State :=
  match s.awaited, token with
  | .header, .openArray => some { s with purpose := .item, awaited := .part [] }
  | .header, token => { s with purpose := .table }.readPart? [] token
  | .headerEnd, .closeArray => some { s with awaited := .lineEnd }
  | .headerEnd, _ => none
  | _, .blank => some s
  | .line, .newline | .itemOrEnd, .newline | .memberOrEnd, .newline | .separator, .newline =>
    some s
  | .line, .openArray => some { s with awaited := .header }
  | .line, token => { s with purpose := .pair }.readPart? [] token
  | .part parts, token => s.readPart? parts token
  | .keyEnd parts, .word ('.' :: rest) => do
    return { s with awaited := ← readPieces? parts (rest.splitOn '.') }
  | .keyEnd parts, .newline => if s.inTable then some { s with awaited := .equals parts } else none
  | .equals _, .newline => some s
  | .keyEnd (name :: path), token | .equals (name :: path), token =>
    s.endKey? ⟨path.reverse, name⟩ token
  | .keyEnd [], _ | .equals [], _ => none
  | .value, .newline => if s.inTable then some s else none
  | .itemOrEnd, .closeArray => s.closeArray?
  | .value, token | .itemOrEnd, token => s.readValue? token
  | .memberOrEnd, .closeTable => s.closeTable?
  | .memberOrEnd, token => s.readPart? [] token
  | .separator, token => s.separate? token
  | .lineEnd, .newline => some { s with awaited := .line }
  | .lineEnd, _ => none

end State

/-- **Reading.** The members of the table that a text stands for. A byte order mark before the
text is passed over. -/
def read? (text : String) : Option (List (String × Value)) := do
  let chars := match text.toList with
    | '\uFEFF' :: rest => rest
    | chars => chars
  let tokens ← tokens? chars
  let state ← (tokens ++ [Token.newline]).foldlM State.step {}
  if state.awaited = .line then some state.document.members else none

end DataGrid.Toml
