import DataGrid.Text.Extending
import DataGrid.Text.Printable

/-!
# Descriptions

A description shows how an object is made up, on one line, for a person who looks for a
mistake. It is not read back.

## Main definitions

* `Description.text`: a text between quotes
* `Description.record`, `Description.list`, `Description.optional`: the forms of descriptions
-/

namespace DataGrid.Description

/-- A character of a text between quotes. Quotes and backslashes are escaped, and so is what
cannot be seen by itself: characters that are not printable, and marks on other characters. -/
def charText (c : Char) : String :=
  match c with
  | '"' => "\\\""
  | '\\' => "\\\\"
  | '\t' => "\\t"
  | '\n' => "\\n"
  | '\r' => "\\r"
  | '\x00' => "\\0"
  | c =>
    if Text.isExtending c || !Text.isPrintable c then
      "\\u\x7b" ++ String.ofList (Nat.toDigits 16 c.toNat) ++ "\x7d"
    else c.toString

/-- A text between quotes. -/
def text (s : String) : String := "\"" ++ String.join (s.toList.map charText) ++ "\""

/-- A truth value. -/
def bool (b : Bool) : String := if b then "true" else "false"

/-- Descriptions in brackets. -/
def list (items : List String) : String := "[" ++ ", ".intercalate items ++ "]"

/-- What may be missing. -/
def optional (item : Option String) : String :=
  match item with
  | some s => "Some(" ++ s ++ ")"
  | none => "None"

/-- The parts of a record with their names. -/
def parts (fields : List (String × String)) : String :=
  ", ".intercalate (fields.map fun (name, part) => name ++ ": " ++ part)

/-- **Record.** A name and named parts. -/
def record (name : String) (fields : List (String × String)) : String :=
  name ++ " \x7b " ++ parts fields ++ " \x7d"

/-- A record that has more parts than are shown. -/
def openRecord (name : String) (fields : List (String × String)) : String :=
  name ++ " \x7b " ++ parts fields ++ ", .. \x7d"

end DataGrid.Description
