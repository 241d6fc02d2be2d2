import DataGrid.Json.Token

/-!
# Written JSON

Values are written without blanks between tokens, members in the order in which they stand.

## Main definitions

* `Json.chars`: the written form of a value as characters
* `Json.text`: the written form of a value
-/

namespace DataGrid.Json

mutual

/-- The written form of a value as characters. -/
def chars : Json → List Char
  | .null => ['n', 'u', 'l', 'l']
  | .bool true => ['t', 'r', 'u', 'e']
  | .bool false => ['f', 'a', 'l', 's', 'e']
  | .number n => n.chars
  | .string s => quoted s.toList
  | .array [] => ['[', ']']
  | .array (item :: rest) => '[' :: item.chars ++ itemsChars rest
  | .object [] => ['\x7b', '\x7d']
  | .object ((name, value) :: rest) =>
    '\x7b' :: quoted name.toList ++ ':' :: value.chars ++ membersChars rest

/-- The written form of further items and the closing bracket. -/
def itemsChars : List Json → List Char
  | [] => [']']
  | item :: rest => ',' :: item.chars ++ itemsChars rest

/-- The written form of further members and the closing bracket. -/
def membersChars : List (String × Json) → List Char
  | [] => ['\x7d']
  | (name, value) :: rest =>
    ',' :: quoted name.toList ++ ':' :: value.chars ++ membersChars rest

end

/-- **Written form.** -/
def text (j : Json) : String := String.ofList j.chars

end DataGrid.Json
