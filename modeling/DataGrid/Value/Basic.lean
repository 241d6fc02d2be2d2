import DataGrid.Calendar.Text
import DataGrid.Numeric.DecimalText

/-!
# Cell values

What a row answers for a field, before it is formatted.

## Main definitions

* `Reference`: a related object by id, label and, if it has a page, address
* `Value`: the kinds of cell values
* `Value.plainText`: the text of a value without markup
* `Value.isEmpty`: whether there is nothing to show
* `ToValue`: types whose members are cell values
-/

namespace DataGrid

open Numeric Calendar

/-- **Reference.** A related object. -/
structure Reference where
  id : Int64
  label : String
  /-- The address of the object's page. -/
  url : Option String := none
  deriving Repr, DecidableEq

/-- **Cell value.** -/
inductive Value where
  | null
  | text (s : String)
  | bool (b : Bool)
  | integer (n : Int64)
  | decimal (d : Decimal)
  | date (d : Date)
  | dateTime (t : DateTime)
  | ref (r : Reference)
  | list (items : List Value)
  deriving Repr

namespace Value

instance : Inhabited Value := ⟨null⟩

/-- Whether there is nothing to show: no value, an empty text, or an empty list. -/
def isEmpty : Value → Bool
  | null => true
  | text s => s.isEmpty
  | list items => items.isEmpty
  | _ => false

/-- The id of the object that a value stands for. -/
def id? : Value → Option Int64
  | integer n => some n
  | ref r => some r.id
  | _ => none

/-- The truth value of a flag. -/
def bool? : Value → Option Bool
  | bool b => some b
  | _ => none

mutual

/-- **Plain text.** The text of a value without markup. A decimal is written without trailing
zeros, a reference as its label, and a list as its items with commas between them. -/
def plainText : Value → String
  | null => ""
  | text s => s
  | bool true => "true"
  | bool false => "false"
  | integer n => String.ofList (signed n.toInt)
  | decimal d => d.normalize.text
  | date d => String.ofList d.chars
  | dateTime t => String.ofList (t.chars ' ')
  | ref r => r.label
  | list items => ", ".intercalate (plainTexts items)

/-- The plain texts of items. -/
def plainTexts : List Value → List String
  | [] => []
  | item :: rest => item.plainText :: plainTexts rest

end

end Value

/-- **Conversion.** Types whose members are cell values. -/
class ToValue (α : Type) where
  toValue : α → Value

export ToValue (toValue)

instance : ToValue Value := ⟨id⟩
instance : ToValue String := ⟨.text⟩
instance : ToValue Bool := ⟨.bool⟩
instance : ToValue Int64 := ⟨.integer⟩
instance : ToValue Decimal := ⟨.decimal⟩
instance : ToValue Date := ⟨.date⟩
instance : ToValue DateTime := ⟨.dateTime⟩
instance : ToValue Reference := ⟨.ref⟩

/-- A list becomes the list of its items' values. -/
instance {α : Type} [ToValue α] : ToValue (List α) := ⟨fun items => .list (items.map toValue)⟩

/-- What is missing becomes no value. -/
instance {α : Type} [ToValue α] : ToValue (Option α) := ⟨fun o => (o.map toValue).getD .null⟩

end DataGrid
