import DataGrid.Json.Fragment
import DataGrid.Proofs.Json.Token

/-!
# Documents of written values

The tokens of a value make up the value's fragment, and leave what follows them untouched. So a
written value is read as a whole document.

## Main definitions

* `Fragment.written`: the fragment of a written value
* `Fragment.resume`: what building goes on with after a value

## Main results

* `Fragment.build_tokensOf`: the tokens of a value make up its fragment
* `Document.ofText_text`: the document of a written value
-/

namespace DataGrid.Json

mutual

/-- **Fragment of a written value.** -/
def Fragment.written : Json → Fragment
  | .null => .null
  | .bool b => .bool b
  | .number n => .number n.chars
  | .string s => .string (.written s.toList)
  | .array items => .array (writtenItems items) none
  | .object members => .object (writtenMembers members) none

/-- The fragments of written items. -/
def Fragment.writtenItems : List Json → List Fragment
  | [] => []
  | item :: rest => written item :: writtenItems rest

/-- The fragments of written members. -/
def Fragment.writtenMembers : List (String × Json) → List (Quoted × Fragment)
  | [] => []
  | (name, value) :: rest => (.written name.toList, written value) :: writtenMembers rest

end

namespace Fragment

/-- **Going on.** A value is the whole document, or one more item of the innermost frame. -/
def resume (value : Fragment) (rest : List Token) : List Frame → Fragment × List Token
  | [] => (value, rest)
  | frame :: outer => build .separator (frame.add value :: outer) rest

/-- The closing bracket of an empty array is the only token that stands for no item. -/
theorem build_itemOrEnd (j : Json) (stack : List Frame) (rest : List Token) :
    build .itemOrEnd stack (tokensOf j ++ rest) = build .item stack (tokensOf j ++ rest) := by
  rcases j with _ | _ | _ | _ | ⟨_ | _⟩ | ⟨_ | _⟩ <;> rfl

mutual

/-- **Building a value.** The tokens of a value make up its fragment. -/
theorem build_tokensOf : ∀ (j : Json) (stack : List Frame) (rest : List Token),
    build .item stack (tokensOf j ++ rest) = resume (written j) rest stack
  | .null, stack, rest => by cases stack <;> rfl
  | .bool b, stack, rest => by cases stack <;> rfl
  | .number n, stack, rest => by cases stack <;> rfl
  | .string s, stack, rest => by cases stack <;> rfl
  | .array [], stack, rest => by cases stack <;> rfl
  | .array (item :: items), stack, rest => by
    -- the bracket opens a frame, to which the first item and then the others are added
    have hopen : build .item stack (tokensOf (.array (item :: items)) ++ rest) =
        build .itemOrEnd (.array [] :: stack) (tokensOf item ++ (itemTokens items ++ rest)) := by
      rw [← List.append_assoc]
      rfl
    rw [hopen, build_itemOrEnd, build_tokensOf item, resume, Frame.add,
      build_itemTokens items]
    rfl
  | .object [], stack, rest => by cases stack <;> rfl
  | .object ((name, value) :: members), stack, rest => by
    -- the bracket opens a frame, and the name and the colon make it await a value
    have hopen : build .item stack (tokensOf (.object ((name, value) :: members)) ++ rest) =
        build .item (.object [] (.written name.toList) :: stack)
          (tokensOf value ++ (memberTokens members ++ rest)) := by
      rw [← List.append_assoc]
      rfl
    rw [hopen, build_tokensOf value, resume, Frame.add, build_memberTokens members]
    rfl

/-- Further items are added to the array that is open. -/
theorem build_itemTokens : ∀ (items : List Json) (before : List Fragment)
    (stack : List Frame) (rest : List Token),
    build .separator (.array before :: stack) (itemTokens items ++ rest) =
      resume (.array (before.reverse ++ writtenItems items) none) rest stack
  | [], before, stack, rest => by
    -- the bracket closes the frame, whose items stand in reverse
    rw [writtenItems, List.append_nil]
    cases stack <;> rfl
  | item :: items, before, stack, rest => by
    -- after the comma the next item is added
    have hcomma : build .separator (.array before :: stack) (itemTokens (item :: items) ++ rest) =
        build .item (.array before :: stack) (tokensOf item ++ (itemTokens items ++ rest)) := by
      rw [← List.append_assoc]
      rfl
    rw [hcomma, build_tokensOf item, resume, Frame.add, build_itemTokens items,
      List.reverse_cons, List.append_assoc]
    rfl

/-- Further members are added to the object that is open. -/
theorem build_memberTokens : ∀ (members : List (String × Json))
    (before : List (Quoted × Fragment)) (name : Quoted) (stack : List Frame) (rest : List Token),
    build .separator (.object before name :: stack) (memberTokens members ++ rest) =
      resume (.object (before.reverse ++ writtenMembers members) none) rest stack
  | [], before, name, stack, rest => by
    rw [writtenMembers, List.append_nil]
    cases stack <;> rfl
  | (key, value) :: members, before, name, stack, rest => by
    -- after the comma the next name takes the place of the last one
    have hcomma : build .separator (.object before name :: stack)
          (memberTokens ((key, value) :: members) ++ rest) =
        build .item (.object before (.written key.toList) :: stack)
          (tokensOf value ++ (memberTokens members ++ rest)) := by
      rw [← List.append_assoc]
      rfl
    rw [hcomma, build_tokensOf value, resume, Frame.add, build_memberTokens members,
      List.reverse_cons, List.append_assoc]
    rfl

end

end Fragment

/-- **Document of a written value.** It is the value's fragment, and nothing follows it. -/
theorem Document.ofText_text {j : Json} (h : isWhole j) :
    Document.ofText j.text = ⟨.written j, false⟩ := by
  have hbuild := Fragment.build_tokensOf j [] []
  rw [List.append_nil] at hbuild
  rw [Document.ofText, tokens_text h, hbuild]
  rfl

end DataGrid.Json
