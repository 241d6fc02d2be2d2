import DataGrid.Settings.Basic
import DataGrid.Value.Codec

/-!
# Filter widgets

A widget is what a user filters a column with. It brings a first value along.

## Main definitions

* `SelectOption`, `Widget`: options, and the kinds of widgets
* `Widget.selectOrNone`: a selection, if there are enough options for one
* `Widget.defaultValue`: the value of an untouched widget
* `Widget.members`, `Widget.encode`, `Widget.decode`: the JSON form
-/

namespace DataGrid

open Json Calendar

/-- An option of a selection. -/
structure SelectOption where
  /-- What is submitted. -/
  value : String
  label : String
  deriving Repr, DecidableEq

/-- **Widget.** Display fields are the paths of what is shown of a selected object. -/
inductive Widget where
  /-- Free text. -/
  | textField (initial : String)
  /-- A choice among options. -/
  | select (options : List SelectOption) (initial : Option String) (displayFields : List String)
  /-- A choice among what an address serves. -/
  | autocomplete (endpoint : String) (displayFields : List String)
  /-- A flag. -/
  | checkbox (initial : Bool)
  /-- An interval of dates, ends included. -/
  | dateRange (start stop : Option Date)
  /-- Nothing to filter with. -/
  | none
  deriving Repr, DecidableEq

namespace Widget

/-- Whether there is nothing to filter with. -/
def isNone : Widget → Bool
  | none => true
  | _ => false

/-- **Selection.** A choice that starts at its first option, or nothing to filter with if
there are fewer options than the settings ask for. -/
def selectOrNone (options : List SelectOption) (displayFields : List String)
    (settings : FilterSettings) : Widget :=
  if options.length < settings.minSelectOptions then none
  else select options (options.head?.map (·.value)) displayFields

/-! ## Writing -/

/-- A date, or null. -/
def encodeDate? (d : Option Date) : Json := (d.map fun d => Json.string d.text).getD .null

/-- The value of an untouched widget. -/
def defaultValue : Widget → Json
  | textField initial => .string initial
  | select _ (some value) _ => .array [.string value]
  | select _ .none _ => .array []
  | checkbox initial => .bool initial
  | dateRange start stop => .object [("from", encodeDate? start), ("to", encodeDate? stop)]
  | autocomplete _ _ | none => .null

/-- The JSON form of texts. -/
def encodeTexts (texts : List String) : Json := .array (texts.map Json.string)

end Widget

/-- The JSON form of an option. -/
def SelectOption.encode (o : SelectOption) : Json :=
  .object [("value", .string o.value), ("label", .string o.label)]

/-- Reading an option. -/
def SelectOption.decode : Decoder SelectOption :=
  Decoder.record ["value", "label"] fun m =>
    SelectOption.mk <$> m.required "value" Decoder.text <*> m.required "label" Decoder.text

namespace Widget

/-- The kinds of widgets. -/
inductive Kind where
  | textField | select | autocomplete | checkbox | dateRange | none
  deriving Repr, DecidableEq

/-- All kinds in their order. -/
def Kind.all : List Kind := [textField, select, autocomplete, checkbox, dateRange, none]

/-- The name of a kind. -/
def Kind.name : Kind → String
  | textField => "text_field"
  | select => "select"
  | autocomplete => "autocomplete"
  | checkbox => "checkbox"
  | dateRange => "date_range"
  | none => "none"

/-- The members of a widget: its kind under `widget`, and its parts. -/
def members : Widget → List (String × Json)
  | textField initial =>
    [("widget", .string Kind.textField.name), ("default", .string initial)]
  | select options initial displayFields =>
    [("widget", .string Kind.select.name),
      ("options", .array (options.map SelectOption.encode)),
      ("default", encodeText? initial), ("display_fields", encodeTexts displayFields)]
  | autocomplete endpoint displayFields =>
    [("widget", .string Kind.autocomplete.name), ("endpoint", .string endpoint),
      ("display_fields", encodeTexts displayFields)]
  | checkbox initial => [("widget", .string Kind.checkbox.name), ("default", .bool initial)]
  | dateRange start stop =>
    [("widget", .string Kind.dateRange.name), ("from", encodeDate? start),
      ("to", encodeDate? stop)]
  | none => [("widget", .string Kind.none.name)]

/-- **JSON form of a widget.** -/
def encode (w : Widget) : Json := .object w.members

/-! ## Reading -/

/-- Reading a kind. -/
def Kind.decode : Decoder Kind := Decoder.tag (Kind.all.map fun kind => (kind.name, kind))

/-- The kind of a widget and its other members, which are held in a buffer. -/
def splitMembers (site : Site) (kind : Option Kind) (kept : List (Quoted × Fragment))
    (fault : Option Fault) : List (Quoted × Fragment) → Except Fault (Kind × Fragment)
  | [] => do
    raise fault
    match kind with
    | some kind => .ok (kind, .object kept.reverse Option.none)
    | .none => .error .mismatch
  | (name, value) :: rest => do
    let key ← name.chars
    if String.ofList key = "widget" then
      if kind.isSome then .error .mismatch
      else
        let kind ← Kind.decode site value
        splitMembers site (some kind) kept fault rest
    else
      Decoder.hold site value
      splitMembers site kind ((name, value) :: kept) fault rest

/-- The kind of a widget and its parts, which are held in a buffer. In an array the kind comes
first. -/
def split (site : Site) : Fragment → Except Fault (Kind × Fragment)
  | .object members fault => do
    let inner ← site.enter
    splitMembers inner Option.none [] fault members
  | .array items fault => do
    let inner ← site.enter
    match items with
    | [] => do
      raise fault
      .error .mismatch
    | first :: rest => do
      let kind ← Kind.decode inner first
      rest.forM fun item => Decoder.hold inner item
      raise fault
      .ok (kind, .array rest Option.none)
  | f => .error f.refuse

/-- Reading the parts of a widget of a known kind. -/
def decodeParts : Kind → Decoder Widget
  | .textField => Decoder.record ["default"] fun m =>
    textField <$> m.required "default" Decoder.text
  | .select => Decoder.record ["options", "default", "display_fields"] fun m =>
    select <$> m.required "options" (Decoder.listOf SelectOption.decode) <*>
      m.optional "default" Decoder.text <*>
      m.required "display_fields" (Decoder.listOf Decoder.text)
  | .autocomplete => Decoder.record ["endpoint", "display_fields"] fun m =>
    autocomplete <$> m.required "endpoint" Decoder.text <*>
      m.required "display_fields" (Decoder.listOf Decoder.text)
  | .checkbox => Decoder.record ["default"] fun m =>
    checkbox <$> m.required "default" Decoder.bool
  | .dateRange => Decoder.record ["from", "to"] fun m =>
    dateRange <$> m.optional "from" Date.decode <*> m.optional "to" Date.decode
  | .none => fun _ f =>
    match f with
    | .array (_ :: _) _ => .error .mismatch
    | _ => .ok none

/-- **Reading a widget.** -/
def decode : Decoder Widget := fun site f => do
  let (kind, parts) ← split site f
  decodeParts kind { site with buffered := true } parts

end Widget

end DataGrid
