import DataGrid.Json.Token

/-!
# What stands in a text

A fragment is the part of a JSON text up to its first fault, as a tree. Readers walk it from
the left and meet the fault where it stands, or a shape that they do not expect before it.

## Main definitions

* `Fragment`: a value, possibly broken off
* `Fragment.build`: the fragment that tokens make up, by a stack of open arrays and objects
* `Document.ofText`: the fragment of a text, and whether anything follows it
* `Fragment.ofJson`: the fragment of an unbroken value
* `Fragment.skip`: the fault of a fragment nobody looks into
* `Fragment.refuse`: the fault of a fragment that has another shape than expected
-/

namespace DataGrid.Json

/-- **Fragment.** An array or object whose closing bracket is missing carries the fault that
stands in its place. After a comma that no item follows there is a broken last item. -/
inductive Fragment where
  | null
  | bool (b : Bool)
  | number (text : List Char)
  | string (q : Quoted)
  | array (items : List Fragment) (fault : Option Fault)
  | object (members : List (Quoted × Fragment)) (fault : Option Fault)
  /-- A word that the end of the text cuts off. -/
  | cutWord
  /-- A numeral that the end of the text cuts off. -/
  | cutNumber
  /-- A fault in place of a value. -/
  | broken (fault : Fault)
  deriving Repr

/-! ## Building fragments from tokens -/

/-- An array or object that is not closed yet, its items in reverse. The name belongs to the
member that is read next. -/
inductive Frame where
  | array (items : List Fragment)
  | object (members : List (Quoted × Fragment)) (name : Quoted)
  deriving Repr

/-- What may come next. -/
inductive Awaited where
  | item
  | itemOrEnd
  | name
  | nameOrEnd
  | colon
  | separator
  deriving Repr, DecidableEq

namespace Frame

/-- A frame with one more item. -/
def add (item : Fragment) : Frame → Frame
  | .array items => .array (item :: items)
  | .object members name => .object ((name, item) :: members) name

/-- The array or object of a frame, closed or broken off. -/
def close (fault : Option Fault) : Frame → Fragment
  | .array items => .array items.reverse fault
  | .object members _ => .object members.reverse fault

/-- The whole fragment, when its innermost item is the last one that can be read. -/
def abandon (item : Fragment) : List Frame → Fragment
  | [] => item
  | frame :: stack => abandon ((frame.add item).close none) stack

end Frame

/-- The member of an object that has no name. -/
def nameless (fault : Fault) : Quoted := ⟨[], some fault⟩

/-- **Building.** The fragment that tokens make up, and the tokens after it. The stack holds
the arrays and objects that are open, the innermost first. -/
def Fragment.build : Awaited → List Frame → List Token → Fragment × List Token
  | awaited, stack, [] =>
    match awaited, stack with
    | .item, _ => (Frame.abandon (.broken .endOfText) stack, [])
    | .name, .object members _ :: outer =>
      (Frame.abandon (.broken .endOfText) (.object members (nameless .endOfText) :: outer), [])
    | .colon, _ => (Frame.abandon (.broken .endOfText) stack, [])
    | _, frame :: outer => (Frame.abandon (frame.close (some .endOfText)) outer, [])
    | _, [] => (.broken .endOfText, [])
  | awaited, stack, token :: rest =>
    let finish := fun (value : Fragment) (stack : List Frame) =>
      match stack with
      | [] => (value, rest)
      | frame :: outer => build .separator (frame.add value :: outer) rest
    let stop := fun (value : Fragment) => (Frame.abandon value stack, rest)
    let value := fun (_ : Unit) =>
      match token with
      | .null => finish .null stack
      | .bool b => finish (.bool b) stack
      | .number text => finish (.number text) stack
      | .string q => if q.fault.isSome then stop (.string q) else finish (.string q) stack
      | .openArray => build .itemOrEnd (.array [] :: stack) rest
      | .openObject => build .nameOrEnd (.object [] ⟨[], none⟩ :: stack) rest
      | .cutWord => stop .cutWord
      | .cutNumber => stop .cutNumber
      | _ => stop (.broken .malformed)
    match awaited, token, stack with
    | .item, _, _ => value ()
    | .itemOrEnd, .closeArray, .array items :: outer => finish (.array items.reverse none) outer
    | .itemOrEnd, _, _ => value ()
    | .nameOrEnd, .closeObject, .object members _ :: outer =>
      finish (.object members.reverse none) outer
    | .nameOrEnd, .string q, .object members _ :: outer
    | .name, .string q, .object members _ :: outer =>
      match q.fault with
      | none => build .colon (.object members q :: outer) rest
      | some fault => (Frame.abandon (.broken fault) (.object members q :: outer), rest)
    | .name, _, .object members _ :: outer =>
      (Frame.abandon (.broken .malformed) (.object members (nameless .malformed) :: outer), rest)
    | .colon, .colon, _ => build .item stack rest
    | .colon, _, _ => stop (.broken .malformed)
    | .separator, .comma, .array _ :: _ => build .item stack rest
    | .separator, .comma, .object _ _ :: _ => build .name stack rest
    | .separator, .closeArray, .array items :: outer => finish (.array items.reverse none) outer
    | .separator, .closeObject, .object members _ :: outer =>
      finish (.object members.reverse none) outer
    | _, _, frame :: outer => (Frame.abandon (frame.close (some .malformed)) outer, rest)
    | _, _, [] => (.broken .malformed, rest)

/-- **Document.** The fragment at the start of a text, and whether more than blanks follow. -/
structure Document where
  root : Fragment
  trailing : Bool
  deriving Repr

/-- The document of a text. -/
def Document.ofText (text : String) : Document :=
  let (root, rest) := Fragment.build .item [] (tokens text.toList)
  ⟨root, !rest.isEmpty⟩

/-! ## Unbroken values -/

/-- A text as a quotation without escapes. -/
def Quoted.ofText (s : String) : Quoted := ⟨s.toList.map .char, none⟩

mutual

/-- **Fragment of a value.** -/
def Fragment.ofJson : Json → Fragment
  | .null => .null
  | .bool b => .bool b
  | .number n => .number n.chars
  | .string s => .string (.ofText s)
  | .array items => .array (Fragment.ofItems items) none
  | .object members => .object (Fragment.ofMembers members) none

/-- The fragments of items. -/
def Fragment.ofItems : List Json → List Fragment
  | [] => []
  | item :: rest => Fragment.ofJson item :: Fragment.ofItems rest

/-- The fragments of members. -/
def Fragment.ofMembers : List (String × Json) → List (Quoted × Fragment)
  | [] => []
  | (name, value) :: rest => (.ofText name, Fragment.ofJson value) :: Fragment.ofMembers rest

end

/-! ## Fragments that are not read -/

/-- A fault, if there is one. -/
def raise : Option Fault → Except Fault Unit
  | none => .ok ()
  | some fault => .error fault

mutual

/-- **Skipping.** The fault of a fragment that is passed over. Units of escapes need not
pair up there, and numbers may be of any size. -/
def Fragment.skip : Fragment → Except Fault Unit
  | .null | .bool _ | .number _ => .ok ()
  | .string q => raise q.fault
  | .array items fault => do
    Fragment.skipItems items
    raise fault
  | .object members fault => do
    Fragment.skipMembers members
    raise fault
  | .cutWord => .error .endOfText
  | .cutNumber => .error .malformed
  | .broken fault => .error fault

/-- The fault of items that are passed over. -/
def Fragment.skipItems : List Fragment → Except Fault Unit
  | [] => .ok ()
  | item :: rest => do
    item.skip
    Fragment.skipItems rest

/-- The fault of members that are passed over. -/
def Fragment.skipMembers : List (Quoted × Fragment) → Except Fault Unit
  | [] => .ok ()
  | (name, value) :: rest => do
    raise name.fault
    value.skip
    Fragment.skipMembers rest

end

/-- **Refusal.** The fault of a fragment whose shape is not the expected one. Words, numerals
and texts are read to their end before they are refused, arrays and objects are not. -/
def Fragment.refuse : Fragment → Fault
  | .null | .bool _ | .array _ _ | .object _ _ => .mismatch
  | .number text => if (Number.ofText? text).isSome then .mismatch else .malformed
  | .string q =>
    match q.chars with
    | .ok _ => .mismatch
    | .error fault => fault
  | .cutWord | .cutNumber => .endOfText
  | .broken fault => fault

end DataGrid.Json
