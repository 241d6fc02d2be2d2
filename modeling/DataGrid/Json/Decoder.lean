import DataGrid.Dictionary
import DataGrid.Json.Fragment

/-!
# Decoding by shape

A decoder says which value a fragment stands for. The fault it answers is the first one in
the text: what stands to the left of a wrong shape has been read, what stands to the right of
it has not.

A fragment may have been read into a buffer before its shape is known. Its faults as a text
are found then; when it is decoded later only its shape is in question.

## Main definitions

* `Site`, `Decoder`: where a fragment stands, and what a decoder is
* `Decoder.bool`, `Decoder.text`, `Decoder.integer`, `Decoder.nullable`, `Decoder.listOf`,
  `Decoder.mapOf`, `Decoder.tag`, `Decoder.choice`: decoders for simple shapes
* `ofFragment`, `Decoder.hold`: any value, as itself or for later
* `Reading`: results with the position of their fault; of two faults the left one counts
* `Decoder.record`, `Members`: decoders for records by name or by position
* `decode`: a whole text
-/

namespace DataGrid.Json

open Numeric (twoTo)

/-- Where a fragment stands. -/
structure Site where
  /-- How many more arrays and objects may be opened. -/
  depth : Nat := 127
  /-- Whether the fragment comes from a buffer. -/
  buffered : Bool := false
  deriving Repr, DecidableEq

/-- The site inside an array or object. -/
def Site.enter (site : Site) : Except Fault Site :=
  match site.depth with
  | 0 => .error .malformed
  | depth + 1 => .ok { site with depth }

/-- **Decoder.** -/
abbrev Decoder (α : Type) := Site → Fragment → Except Fault α

/-! ## Simple shapes -/

namespace Decoder

/-- True or false. -/
def bool : Decoder Bool := fun _ f =>
  match f with
  | .bool b => .ok b
  | f => .error f.refuse

/-- A text. -/
def text : Decoder String := fun _ f =>
  match f with
  | .string q => q.chars.map String.ofList
  | f => .error f.refuse

/-- A text that stands for a value. -/
def parsed {α : Type} (read : String → Option α) : Decoder α := fun site f => do
  match read (← text site f) with
  | some a => .ok a
  | none => .error .mismatch

/-- A number of any kind. -/
def number : Decoder Number := fun _ f =>
  match f with
  | .number s =>
    match Number.ofText? s with
    | some n => .ok n
    | none => .error .malformed
  | f => .error f.refuse

/-- A whole number between two bounds. -/
def integer (low high : Int) : Decoder Int := fun site f => do
  match ← number site f with
  | .integer n => if low ≤ n ∧ n ≤ high then .ok n else .error .mismatch
  | .double _ => .error .mismatch

/-- A 64-bit integer. -/
def int64 : Decoder Int64 := fun site f =>
  (integer (-(twoTo 63 : Int)) (twoTo 63 - 1) site f).map Int64.ofInt

/-- A whole number that is not negative, up to a bound. -/
def natural (high : Nat) : Decoder Nat := fun site f => (integer 0 high site f).map Int.toNat

/-- Null, or what a decoder reads. -/
def nullable {α : Type} (decoder : Decoder α) : Decoder (Option α) := fun site f =>
  match f with
  | .null => .ok none
  | f => (decoder site f).map some

/-- An array of what a decoder reads. -/
def listOf {α : Type} (decoder : Decoder α) : Decoder (List α) := fun site f =>
  match f with
  | .array items fault => do
    let inner ← site.enter
    let values ← items.mapM (decoder inner)
    raise fault
    .ok values
  | f => .error f.refuse

/-- The members of an object whose values a decoder reads, sorted by name. Of two members with
one name the later one counts. -/
def mapOf {α : Type} (decoder : Decoder α) : Decoder (List (String × α)) := fun site f =>
  match f with
  | .object members fault => do
    let inner ← site.enter
    let entries ← members.mapM fun (name, value) => do
      let name ← name.chars
      return (String.ofList name, ← decoder inner value)
    raise fault
    .ok (Dictionary.ofList entries)
  | f => .error f.refuse

/-- A choice by the name of a member and nothing in it. -/
private def chosenMember {α : Type} (find : String → Option α) (site : Site)
    (name : Quoted) (value : Fragment) : Except Fault α := do
  let name ← name.chars
  match find (String.ofList name) with
  | none => .error .mismatch
  | some a =>
    match value, site.buffered with
    | .null, _ => .ok a
    | .object [] none, true => .ok a
    | value, _ => .error value.refuse

/-- **Tag.** One of several names. From a buffer it may also be given by its place among them. -/
def tag {α : Type} (names : List (String × α)) : Decoder α := fun site f =>
  match f, site.buffered with
  | .number _, true => do
    let place ← natural (names.length - 1) site f
    match names[place]? with
    | some (_, a) => .ok a
    | none => .error .mismatch
  | f, _ => parsed (fun name => names.lookup name) site f

/-- **Choice.** One of several named constants: a text, or an object whose only member has the
name and holds null. Anything else is no JSON for a choice unless it comes from a buffer. -/
def choice {α : Type} (find : String → Option α) : Decoder α := fun site f =>
  match f with
  | .string q => do
    match find (String.ofList (← q.chars)) with
    | some a => .ok a
    | none => .error .mismatch
  | .object members fault =>
    if site.buffered then
      match members with
      | [(name, value)] => chosenMember find site name value
      | _ => .error .mismatch
    else do
      let inner ← site.enter
      match members with
      | [] => .error (fault.getD .malformed)
      | [(name, value)] =>
        let a ← chosenMember find inner name value
        raise fault
        .ok a
      | (name, value) :: _ :: _ =>
        let _ ← chosenMember find inner name value
        .error .malformed
  | .broken .endOfText => .error .endOfText
  | _ => .error (if site.buffered then .mismatch else .malformed)

end Decoder

/-! ## Any shape -/

mutual

/-- **Free value.** The value of a fragment of any shape, with sorted members. -/
def ofFragment (depth : Nat) : Fragment → Except Fault Json
  | .null => .ok .null
  | .bool b => .ok (.bool b)
  | .number s =>
    match Number.ofText? s with
    | some n => .ok (.number n)
    | none => .error .malformed
  | .string q => q.chars.map fun s => .string (String.ofList s)
  | .array items fault =>
    match depth with
    | 0 => .error .malformed
    | depth + 1 => do
      let values ← ofFragments depth items
      raise fault
      .ok (.array values)
  | .object members fault =>
    match depth with
    | 0 => .error .malformed
    | depth + 1 => do
      let values ← ofMembers depth [] members
      raise fault
      .ok (.object values)
  | f => .error f.refuse

/-- The values of items. -/
def ofFragments (depth : Nat) : List Fragment → Except Fault (List Json)
  | [] => .ok []
  | item :: rest => do
    let value ← ofFragment depth item
    let values ← ofFragments depth rest
    .ok (value :: values)

/-- The values of members, put into sorted members. -/
def ofMembers (depth : Nat) (sorted : List (String × Json)) :
    List (Quoted × Fragment) → Except Fault (List (String × Json))
  | [] => .ok sorted
  | (name, value) :: rest => do
    let name ← name.chars
    let value ← ofFragment depth value
    ofMembers depth (Dictionary.insert (String.ofList name) value sorted) rest

end

namespace Decoder

/-- The fault of a value of any shape that is looked into before it is refused: arrays and
objects are opened. -/
def refuse {α : Type} : Decoder α := fun site f =>
  match f with
  | .array _ _ | .object _ _ => do
    let _ ← site.enter
    .error .mismatch
  | f => .error f.refuse

/-- A value of any shape. -/
def any : Decoder Json := fun site f => ofFragment site.depth f

/-- The faults of a fragment that is read into a buffer. -/
def hold : Decoder Unit := fun site f => (any site f).map fun _ => ()

end Decoder

/-! ## Results with positions -/

/-- **Reading.** A result, or a fault and how many members stand before it. -/
inductive Reading (α : Type) where
  | value (a : α)
  | fault (position : Nat) (f : Fault)

namespace Reading

/-- Two results together. Of two faults the one further to the left counts. -/
def both {α β : Type} : Reading α → Reading β → Reading (α × β)
  | .value a, .value b => .value (a, b)
  | .value _, .fault q g => .fault q g
  | .fault p f, .value _ => .fault p f
  | .fault p f, .fault q g => if q < p then .fault q g else .fault p f

/-- A function on a result. -/
def map {α β : Type} (f : α → β) : Reading α → Reading β
  | .value a => .value (f a)
  | .fault p g => .fault p g

instance : Functor Reading := ⟨map, fun b => map fun _ => b⟩

instance : Seq Reading := ⟨fun f a => map (fun (f, a) => f a) (both f (a ()))⟩

/-- A result at a position. -/
def ofExcept {α : Type} (position : Nat) : Except Fault α → Reading α
  | .ok a => .value a
  | .error f => .fault position f

end Reading

/-! ## Records -/

/-- The parts of a record as they stand in a text. -/
structure Members where
  /-- Where the values stand. -/
  site : Site
  /-- The declared members that are there, with their positions. -/
  known : List (String × Nat × Fragment)
  /-- The other members, if they are kept. -/
  others : List (Quoted × Fragment)
  /-- The first fault in the make-up of the record. -/
  stop : Option (Nat × Fault)
  /-- A position behind all members. -/
  limit : Nat
  /-- Whether the parts are named. Unnamed parts may be left out at the end only where the
  record says so. -/
  named : Bool

namespace Members

/-- The value of a member that has to be there. -/
def required {α : Type} (m : Members) (name : String) (decoder : Decoder α) : Reading α :=
  match m.known.lookup name with
  | some (position, f) => .ofExcept position (decoder m.site f)
  | none => .fault m.limit .mismatch

/-- The value of a member that may be null, and absent if members are named. -/
def optional {α : Type} (m : Members) (name : String) (decoder : Decoder α) :
    Reading (Option α) :=
  match m.known.lookup name with
  | some (position, f) => .ofExcept position (Decoder.nullable decoder m.site f)
  | none => if m.named then .value none else .fault m.limit .mismatch

/-- The value of a member that may be absent. -/
def withDefault {α : Type} (m : Members) (name : String) (default : α) (decoder : Decoder α) :
    Reading α :=
  match m.known.lookup name with
  | some (position, f) => .ofExcept position (decoder m.site f)
  | none => .value default

/-- The members of an object from a position on, added to those before it. A declared name
given twice ends the record; other members are passed over, or kept if `keep` says so. -/
def collect (names : List String) (keep : Bool) (m : Members) (position : Nat)
    (fault : Option Fault) : List (Quoted × Fragment) → Members
  | [] => { m with
      stop := fault.map (position, ·)
      limit := position + 1
      known := m.known.reverse
      others := m.others.reverse }
  | (name, value) :: rest =>
    let stopped := fun (f : Fault) => { m with
      stop := some (position, f)
      limit := position + 1
      known := m.known.reverse
      others := m.others.reverse }
    match name.chars with
    | .error f => stopped f
    | .ok chars =>
      let key := String.ofList chars
      if names.contains key then
        if (m.known.lookup key).isSome then stopped .mismatch
        else
          collect names keep { m with known := (key, position, value) :: m.known }
            (position + 1) fault rest
      else if keep then
        match Decoder.hold m.site value with
        | .error f => stopped f
        | .ok () =>
          collect names keep { m with others := (name, value) :: m.others }
            (position + 1) fault rest
      else
        match value.skip with
        | .error f => stopped f
        | .ok () => collect names keep m (position + 1) fault rest

/-- The parts of a record given by position. A part too many is a fault of the text, or of
the shape if the text has been read already. -/
def ofItems (site : Site) (names : List String) (items : List Fragment)
    (fault : Option Fault) : Members :=
  let known := (names.zip items).zipIdx.map fun ((name, item), position) =>
    (name, position, item)
  let stop :=
    if names.length < items.length then
      some (names.length, if site.buffered then Fault.mismatch else .malformed)
    else fault.map (items.length, ·)
  ⟨site, known, [], stop, items.length + 1, false⟩

/-- What a record is built from, unless its make-up has a fault further to the left. -/
def finish {α : Type} (m : Members) : Reading α → Except Fault α
  | .value a =>
    match m.stop with
    | none => .ok a
    | some (_, f) => .error f
  | .fault p f =>
    match m.stop with
    | none => .error f
    | some (q, g) => .error (if q < p then g else f)

end Members

namespace Decoder

/-- **Record.** A record with the given members, written as an object or as an array of their
values in this order. -/
def record {α : Type} (names : List String) (build : Members → Reading α) : Decoder α :=
  fun site f =>
    match f with
    | .object members fault => do
      let inner ← site.enter
      let m := Members.collect names false ⟨inner, [], [], none, 0, true⟩ 0 fault members
      m.finish (build m)
    | .array items fault => do
      let inner ← site.enter
      let m := Members.ofItems inner names items fault
      m.finish (build m)
    | f => .error f.refuse

/-- A record written as an object, whose undeclared members are kept. -/
def openRecord {α : Type} (names : List String) (build : Members → Reading α) : Decoder α :=
  fun site f =>
    match f with
    | .object members fault => do
      let inner ← site.enter
      let m := Members.collect names true ⟨inner, [], [], none, 0, true⟩ 0 fault members
      m.finish (build m)
    | f => .error f.refuse

end Decoder

/-! ## Whole texts -/

/-- **Decoding a text.** The value of the text; what follows it must be blank. -/
def decode {α : Type} (decoder : Decoder α) (s : String) : Except Fault α := do
  let document := Document.ofText s
  let value ← decoder {} document.root
  if document.trailing then .error .malformed else .ok value

/-- The value that an unbroken value is decoded to. -/
def decodeJson {α : Type} (decoder : Decoder α) (j : Json) : Except Fault α :=
  decoder {} (.ofJson j)

end DataGrid.Json
