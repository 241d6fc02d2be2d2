import DataGrid.Numeric.Binary64
import DataGrid.Numeric.Power

/-!
# JSON values

## Main definitions

* `Json.Number`: a number, kept exactly if it is a 64-bit integer
* `Json`: a value; the members of an object stand in the order in which they are written
* `Json.Number.ofText?`: the number that a numeral stands for
* `Json.member?`: the value of a member by name
-/

namespace DataGrid

/-- **Number.** Integers from -2 ^ 63 to 2 ^ 64 - 1 are exact, all others are doubles. -/
inductive Json.Number where
  | integer (n : Int)
  | double (x : Numeric.Binary64)
  deriving Repr, DecidableEq

/-- **JSON value.** -/
inductive Json where
  | null
  | bool (b : Bool)
  | number (n : Json.Number)
  | string (s : String)
  | array (items : List Json)
  | object (members : List (String × Json))
  deriving Repr

namespace Json

instance : Inhabited Json := ⟨null⟩

open Numeric

/-- A whole number as a value. -/
def int (n : Int) : Json := .number (.integer n)

/-- Digits taken up by a number as long as it stays below 2 ^ 64, and how many those are. -/
def Number.gather (n : Nat) : List Char → Nat × Nat
  | [] => (n, 0)
  | c :: rest =>
    let next := n * 10 + (c.toNat - '0'.toNat)
    if next < twoTo 64 then
      let (m, count) := gather next rest
      (m, count + 1)
    else (n, 0)

/-- The double for whole digits, places and a power of ten. As many digits count as fit into
64 bits; digits left out before the point raise the power. -/
def Number.doubleOf? (negative : Bool) (whole places : List Char) (power : Int) :
    Option Number :=
  let (n, taken) := gather 0 whole
  let (n, takenPlaces) := gather n places
  (Binary64.ofDecimal? negative n ((whole.length : Int) - taken - takenPlaces + power)).map
    .double

/-- A numeral split into sign, whole digits, places and the sign and digits of its power. -/
def Number.split (s : List Char) :
    Bool × List Char × List Char × Option (Bool × List Char) :=
  let (negative, s) := match s with
    | '-' :: rest => (true, rest)
    | _ => (false, s)
  let whole := s.takeWhile Char.isDigit
  let s := s.dropWhile Char.isDigit
  let (places, s) := match s with
    | '.' :: rest => (rest.takeWhile Char.isDigit, rest.dropWhile Char.isDigit)
    | _ => ([], s)
  match s with
  | [] => (negative, whole, places, none)
  | _ :: '-' :: power => (negative, whole, places, some (true, power))
  | _ :: '+' :: power => (negative, whole, places, some (false, power))
  | _ :: power => (negative, whole, places, some (false, power))

/-- **Reading a number.** The number that a numeral stands for, unless it is too large for a
double. A minus sign before zero gives a double, since no integer has that sign. -/
def Number.ofText? (s : List Char) : Option Number :=
  match split s with
  | (negative, whole, [], none) =>
    let n := valueOf whole
    if negative then
      if 0 < n ∧ n ≤ twoTo 63 then some (.integer (-n)) else doubleOf? true whole [] 0
    else if n < twoTo 64 then some (.integer n)
    else doubleOf? false whole [] 0
  | (negative, whole, places, none) => doubleOf? negative whole places 0
  | (negative, whole, places, some (down, power)) =>
    let size := valueOf power
    if twoTo 31 ≤ size then
      if (whole ++ places).all (· = '0') ∨ down then some (.double ⟨negative, 0, 0⟩) else none
    else doubleOf? negative whole places (if down then -size else size)

/-- The written form of a number as characters. -/
def Number.chars : Number → List Char
  | .integer n => signed n
  | .double x => x.chars

/-- The value of the member with a name. -/
def member? (name : String) : Json → Option Json
  | .object members => members.lookup name
  | _ => none

end Json

end DataGrid
