/-!
# Blanks and words

Blank characters are those with the Unicode property White_Space. The words of a text are
its nonempty pieces between blanks.

## Main definitions

* `isBlank`: whether a character is blank
* `dropBlanks`: a text without its leading blanks
* `words`: the nonempty pieces between blanks
-/

namespace DataGrid.Text

/-- Whether a character has the Unicode property White_Space. -/
def isBlank (c : Char) : Bool :=
  let n := c.toNat
  (0x09 ≤ n && n ≤ 0x0D) || n == 0x20 || n == 0x85 || n == 0xA0 || n == 0x1680 ||
    (0x2000 ≤ n && n ≤ 0x200A) || n == 0x2028 || n == 0x2029 || n == 0x202F ||
    n == 0x205F || n == 0x3000

/-- A text without its leading blanks. -/
def dropBlanks (s : List Char) : List Char := s.dropWhile isBlank

/-- **Words.** The nonempty pieces between blanks, in order. -/
def words (s : String) : List String :=
  ((s.toList.splitOnP isBlank).filter (· ≠ [])).map String.ofList

end DataGrid.Text
