import DataGrid.Numeric.Decimal

/-!
# Written decimals

A decimal is written with all of its places. A written decimal may have a sign, one point,
and underscores between its digits; it may also carry a power of ten.

## Main definitions

* `Decimal.wholeDigits`, `Decimal.placeDigits`: the digits on both sides of the point
* `Decimal.text`: the written form
* `Decimal.ofText?`, `Decimal.ofScientific?`: reading without and with a power of ten
-/

namespace DataGrid.Numeric.Decimal

/-- The digits before the point: at least one. -/
def wholeDigits (d : Decimal) : List Char := digits (d.size / tenTo d.scale)

/-- The digits after the point: as many as the scale says. -/
def placeDigits (d : Decimal) : List Char :=
  if d.scale = 0 then [] else padded d.scale (d.size % tenTo d.scale)

/-- The written form of a decimal as characters. -/
def chars (d : Decimal) : List Char :=
  (if d.negative then ['-'] else []) ++ d.wholeDigits ++
    (if d.scale = 0 then [] else '.' :: d.placeDigits)

/-- **Written form.** Sign, whole digits and, if there are places, a point and the places. -/
def text (d : Decimal) : String := String.ofList d.chars

/-! ## Reading without a power of ten -/

/-- Sizes below this limit surely take one more digit within 64 bits. -/
def narrowLimit : Nat := twoTo 64 / 10 - 255

/-- The digit that decides how the digits before it are rounded. Underscores before it are
passed over, but not behind a number whose digits are read within 64 bits. -/
def roundingDigit? (size : Nat) (rest : List Char) : Option Char :=
  if size / 10 < narrowLimit then rest.head? else rest.find? (· ≠ '_')

/-- The end of a written decimal that has no room for the digits to come. From five on the
first of them counts up, and a size that grows too large thereby gives up its last place.
Nothing but digits and underscores may be left. -/
def closeRounded (negative : Bool) (size scale : Nat) (rest : List Char) : Option Decimal :=
  if rest.all fun c => c.isDigit || c = '_' then
    if (roundingDigit? size rest).any fun c => '5' ≤ c && c ≤ '9' then
      if size + 1 < twoTo 96 then ofSize? negative (size + 1) scale
      else if scale = 0 then none
      else ofSize? negative ((size + 5) / 10) (scale - 1)
    else ofSize? negative size scale
  else none

/-- The digits of a written decimal after its sign. `started` tells whether there was a
digit before, `pointed` whether there was a point. Digits for which there is no room behind
the point end the reading. -/
def ofDigits? (negative : Bool) (size scale : Nat) (started pointed : Bool) :
    List Char → Option Decimal
  | [] => if started then ofSize? negative size scale else none
  | c :: rest =>
    if started && pointed && 28 ≤ scale then closeRounded negative size scale (c :: rest)
    else if c.isDigit then
      let next := size * 10 + (c.toNat - '0'.toNat)
      if next < twoTo 96 then
        ofDigits? negative next (if pointed then scale + 1 else 0) true pointed rest
      else if pointed then closeRounded negative size scale (c :: rest)
      else none
    else if c = '.' && !pointed then ofDigits? negative size scale started true rest
    else if c = '_' && started then ofDigits? negative size scale started pointed rest
    else none

/-- **Reading.** The decimal that a text without a power of ten stands for. -/
def ofText? (s : List Char) : Option Decimal :=
  match s with
  | '-' :: rest => ofDigits? true 0 0 false false rest
  | '+' :: rest => ofDigits? false 0 0 false false rest
  | _ => ofDigits? false 0 0 false false s

/-! ## Reading with a power of ten -/

/-- A decimal divided by a power of ten up to 10 ^ 28. Places beyond the last one are rounded
away. -/
def scaleDown? (d : Decimal) (power : Nat) : Option Decimal :=
  if h : power ≤ 28 then
    some { d.shorten (28 - power) with
      scale := (d.shorten (28 - power)).scale + power
      scale_le := by
        have := d.shorten_scale_le (28 - power)
        omega }
  else none

/-- A decimal times a power of ten up to 10 ^ 28. -/
def scaleUp? (d : Decimal) (power : Nat) : Option Decimal :=
  if power ≤ d.scale then
    some { d with
      scale := d.scale - power
      scale_le := Nat.le_trans (Nat.sub_le _ _) d.scale_le }
  else if 28 < power then none
  else ofSize? d.negative (d.size * tenTo (power - d.scale)) 0

/-- A decimal times a power of ten that is given by its sign and its digits. -/
def scaled? (d : Decimal) (s : List Char) : Option Decimal :=
  match s with
  | '-' :: rest => do d.scaleDown? (← natOfText? rest)
  | _ => do d.scaleUp? (← natOfText? s)

/-- The decimal that a text with a power of ten stands for. -/
def ofScientific? (s : List Char) : Option Decimal :=
  let isMark := fun c => c == 'e' || c == 'E'
  match s.dropWhile (!isMark ·) with
  | [] => none
  | _ :: power => do
    let d ← ofText? (s.takeWhile (!isMark ·))
    d.scaled? power

/-- The decimal that a text stands for, with or without a power of ten. -/
def read? (s : String) : Option Decimal := ofText? s.toList <|> ofScientific? s.toList

end DataGrid.Numeric.Decimal
