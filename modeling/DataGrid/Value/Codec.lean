import DataGrid.Json.Decoder
import DataGrid.Json.Writer
import DataGrid.Value.Basic

/-!
# Cell values as JSON

A cell value is an object with its kind under `type` and its content under `value`, in any
order. A missing value has no content.

## Main definitions

* `Value.Kind`: the names of the kinds
* `Reference.encode`, `Value.encode`: the JSON form
* `Reference.decode`, `Value.decode`: reading it back
-/

namespace DataGrid

open Json Numeric Calendar

/-! ## Writing -/

/-- A text, or null. -/
def encodeText? (s : Option String) : Json := (s.map Json.string).getD .null

/-- The JSON form of a reference. -/
def Reference.encode (r : Reference) : Json :=
  .object [("id", Json.int r.id.toInt), ("label", .string r.label), ("url", encodeText? r.url)]

namespace Value

/-- The kinds of cell values. -/
inductive Kind where
  | null | text | bool | integer | decimal | date | dateTime | ref | list
  deriving Repr, DecidableEq

/-- All kinds with their names. -/
def Kind.names : List (String × Kind) :=
  [("null", .null), ("text", .text), ("bool", .bool), ("integer", .integer),
    ("decimal", .decimal), ("date", .date), ("date_time", .dateTime), ("ref", .ref),
    ("list", .list)]

/-- The kind with a name. -/
def Kind.ofName? (name : String) : Option Kind := names.lookup name

/-- A kind and its content as JSON. -/
private def tagged (kind : String) (content : Json) : Json :=
  .object [("type", .string kind), ("value", content)]

mutual

/-- **JSON form of a value.** -/
def encode : Value → Json
  | null => .object [("type", .string "null")]
  | text s => tagged "text" (.string s)
  | bool b => tagged "bool" (.bool b)
  | integer n => tagged "integer" (Json.int n.toInt)
  | decimal d => tagged "decimal" (.string d.text)
  | date d => tagged "date" (.string (String.ofList d.chars))
  | dateTime t => tagged "date_time" (.string (String.ofList (t.chars 'T')))
  | ref r => tagged "ref" r.encode
  | list items => tagged "list" (.array (encodeItems items))

/-- The JSON forms of items. -/
def encodeItems : List Value → List Json
  | [] => []
  | item :: rest => item.encode :: encodeItems rest

end

end Value

/-! ## Reading -/

/-- A decimal: a text, or a number as it is written without a power of ten. -/
def Numeric.Decimal.decode : Decoder Decimal := fun site f =>
  match f with
  | .number _ => do
    match ← Decoder.number site f with
    | .integer n =>
      match Decimal.ofParts? n 0 with
      | some d => .ok d
      | none => .error .mismatch
    | .double x =>
      match Decimal.ofText? x.positional with
      | some d => .ok d
      | none => .error .mismatch
  | .string q => Decoder.parsed Decimal.read? site (.string q)
  | f => Decoder.refuse site f

/-- A date. -/
def Calendar.Date.decode : Decoder Date := Decoder.parsed Date.ofText?

/-- A point in time. -/
def Calendar.DateTime.decode : Decoder DateTime := Decoder.parsed DateTime.ofText?

/-- Reading a reference. -/
def Reference.decode : Decoder Reference :=
  Decoder.record ["id", "label", "url"] fun m =>
    Reference.mk <$> m.required "id" Decoder.int64 <*> m.required "label" Decoder.text <*>
      m.optional "url" Decoder.text

namespace Value

/-- How much of a value has been read: nothing, its kind, its content before its kind is
known, or all. -/
inductive Progress where
  | nothing
  | kind (kind : Kind)
  | content (decode : Kind → Except Fault Value)
  | all (value : Value)

/-- What has been read at the end of an object. Only a missing value needs no content. -/
def Progress.finish : Progress → Except Fault Value
  | .all value => .ok value
  | .kind .null => .ok .null
  | _ => .error .mismatch

mutual

/-- **Reading a value.** An object, or an array of the kind and the content. Content that
stands before its kind is held in a buffer until the kind is known. -/
def decode (site : Site) : Fragment → Except Fault Value
  | .object members fault => do
    let inner ← site.enter
    decodeMembers inner .nothing fault members
  | .array [] fault => do
    let _ ← site.enter
    raise fault
    .error .mismatch
  | .array [kind] fault => do
    let inner ← site.enter
    let _ ← Decoder.tag Kind.names inner kind
    raise fault
    .error .mismatch
  | .array (kind :: content :: more) fault => do
    let inner ← site.enter
    let kind ← Decoder.tag Kind.names inner kind
    let value ← decodeContent inner kind content
    if more.isEmpty then
      raise fault
      .ok value
    else .error (if site.buffered then .mismatch else .malformed)
  | f => .error f.refuse

/-- Reading content of a known kind. -/
def decodeContent (site : Site) (kind : Kind) : Fragment → Except Fault Value
  | .array items fault =>
    match kind with
    | .list => do
      let inner ← site.enter
      let values ← decodeItems inner items
      raise fault
      .ok (.list values)
    | .ref => (Reference.decode site (.array items fault)).map .ref
    | .null | .decimal => Decoder.refuse site (.array items fault)
    | _ => .error .mismatch
  | f =>
    match kind with
    | .null =>
      match f with
      | .null => .ok .null
      | f => Decoder.refuse site f
    | .text => (Decoder.text site f).map .text
    | .bool => (Decoder.bool site f).map .bool
    | .integer => (Decoder.int64 site f).map .integer
    | .decimal => (Decimal.decode site f).map .decimal
    | .date => (Date.decode site f).map .date
    | .dateTime => (DateTime.decode site f).map .dateTime
    | .ref => (Reference.decode site f).map .ref
    | .list => .error f.refuse

/-- Reading the items of a list. -/
def decodeItems (site : Site) : List Fragment → Except Fault (List Value)
  | [] => .ok []
  | item :: rest => do
    let value ← decode site item
    let values ← decodeItems site rest
    .ok (value :: values)

/-- Reading the members of an object after some of it has been read. -/
def decodeMembers (site : Site) (progress : Progress) (fault : Option Fault) :
    List (Quoted × Fragment) → Except Fault Value
  | [] => do
    raise fault
    progress.finish
  | (name, member) :: rest => do
    let name ← name.chars
    match String.ofList name, progress with
    | "type", .nothing => do
      let kind ← Decoder.choice Kind.ofName? site member
      decodeMembers site (.kind kind) fault rest
    | "type", .content decode => do
      let kind ← Decoder.choice Kind.ofName? site member
      let value ← decode kind
      decodeMembers site (.all value) fault rest
    | "value", .nothing => do
      Decoder.hold site member
      let decode := fun kind => decodeContent { site with buffered := true } kind member
      decodeMembers site (.content decode) fault rest
    | "value", .kind kind => do
      let value ← decodeContent site kind member
      decodeMembers site (.all value) fault rest
    | "type", _ | "value", _ => .error .mismatch
    | _, _ => do
      member.skip
      decodeMembers site progress fault rest

end

end Value

end DataGrid
