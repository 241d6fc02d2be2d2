import DataGrid.Proofs.Calendar.Text
import DataGrid.Proofs.Json.FreeValue
import DataGrid.Proofs.Numeric.DecimalText
import DataGrid.Value.Codec

/-!
# Cell values that are read back

The text of a cell value names the kind before the content, so the content is read by the
decoder of its kind. Each kind reads back what it writes, and a list reads back its items one
level of nesting further in. Points in time are settled on the way, which changes none but those in a
leap second inside a minute.

## Main definitions

* `Json.depth`: how many arrays and objects are inside each other
* `Value.zerosUnsigned`: values without a zero that has a minus sign
* `Value.leapsEndMinutes`: values without a leap second inside a minute
* `Value.settled`: a value with its points in time as they are read

## Main results

* `Value.settled_eq_self_iff`: which values are settled
* `Value.decode_tagged`: content is read by the decoder of its kind
* `Value.decode_written`: a written value is read as it is settled, where it may be opened
* `Value.decode_encode_text`: which values their texts stand for
* `Value.decode_earlyLeap_ne`: a leap second inside a minute is not read back
-/

namespace DataGrid

open Json Numeric Calendar

/-! ## Depth -/

namespace Json

mutual

/-- **Depth.** How many arrays and objects of a value are inside each other. -/
def depth : Json → Nat
  | .array items => depthOfItems items + 1
  | .object members => depthOfMembers members + 1
  | _ => 0

/-- The largest depth of an item. -/
def depthOfItems : List Json → Nat
  | [] => 0
  | item :: rest => max (depth item) (depthOfItems rest)

/-- The largest depth of a member. -/
def depthOfMembers : List (String × Json) → Nat
  | [] => 0
  | (_, value) :: rest => max (depth value) (depthOfMembers rest)

end

/-- A tag adds one level to the content. -/
theorem depth_tagged (name : String) (content : Json) :
    (Json.object [("type", .string name), ("value", content)]).depth = content.depth + 1 := by
  simp [depth, depthOfMembers]

end Json

/-! ## References -/

theorem nullable_text_written (s : Option String) (site : Site) :
    Decoder.nullable Decoder.text site (.written (encodeText? s)) = .ok s := by
  cases s with
  | none => rfl
  | some s => exact congrArg (Except.map some) (Decoder.text_written s site)

theorem Reference.decode_written (r : Reference) (depth : Nat) (buffered : Bool) :
    Reference.decode ⟨depth + 1, buffered⟩ (.written r.encode) = .ok r := by
  refine Decoder.record_written (by simp) (by simp) ?_
  rw [Members.required_written _ rfl rfl (Decoder.int64_written r.id ⟨depth, buffered⟩),
    Members.required_written _ rfl rfl (Decoder.text_written r.label ⟨depth, buffered⟩),
    Members.optional_written _ rfl rfl (nullable_text_written r.url ⟨depth, buffered⟩)]
  rfl

/-! ## Values -/

namespace Value

mutual

/-- **Unsigned zeros.** No decimal of the value is a zero with a minus sign. -/
def zerosUnsigned : Value → Bool
  | .decimal d => d.size != 0 || !d.negative
  | .list items => itemsZerosUnsigned items
  | _ => true

/-- No decimal of the items is a zero with a minus sign. -/
def itemsZerosUnsigned : List Value → Bool
  | [] => true
  | item :: rest => zerosUnsigned item && itemsZerosUnsigned rest

end

mutual

/-- **Leap seconds at the end.** Every leap second in the value is the last of its minute. -/
def leapsEndMinutes : Value → Bool
  | .dateTime t => t.time.leapEndsMinute
  | .list items => itemsLeapsEndMinutes items
  | _ => true

/-- Every leap second in the items is the last of its minute. -/
def itemsLeapsEndMinutes : List Value → Bool
  | [] => true
  | item :: rest => leapsEndMinutes item && itemsLeapsEndMinutes rest

end

mutual

/-- **Settled value.** The value with its points in time settled. -/
def settled : Value → Value
  | .dateTime t => .dateTime t.settled
  | .list items => .list (itemsSettled items)
  | v => v

/-- The items with their points in time settled. -/
def itemsSettled : List Value → List Value
  | [] => []
  | item :: rest => settled item :: itemsSettled rest

end

mutual

/-- **Settled values** are those with no leap second but the last ones of minutes. -/
theorem settled_eq_self_iff : ∀ v : Value, v.settled = v ↔ v.leapsEndMinutes
  | .dateTime t => by
    rw [settled, leapsEndMinutes, dateTime.injEq]
    exact t.settled_eq_self_iff
  | .list items => by
    rw [settled, leapsEndMinutes, list.injEq]
    exact itemsSettled_eq_self_iff items
  | .null | .text _ | .bool _ | .integer _ | .decimal _ | .date _ | .ref _ => iff_of_true rfl rfl

theorem itemsSettled_eq_self_iff :
    ∀ items : List Value, itemsSettled items = items ↔ itemsLeapsEndMinutes items
  | [] => iff_of_true rfl rfl
  | item :: rest => by
    rw [itemsSettled, itemsLeapsEndMinutes, List.cons.injEq, Bool.and_eq_true,
      settled_eq_self_iff item, itemsSettled_eq_self_iff rest]

end

theorem depth_encode_pos (v : Value) : 0 < v.encode.depth := by
  cases v <;> exact Nat.succ_pos _

/-- **Tagged content.** It is read by the decoder of its kind, inside the object. -/
theorem decode_tagged {name : String} (kind : Kind) {content : Json} {depth : Nat} {v : Value}
    (hkind : Kind.ofName? name = some kind)
    (hcontent : decodeContent ⟨depth, false⟩ kind (.written content) = .ok v) :
    decode ⟨depth + 1, false⟩
      (.written (.object [("type", .string name), ("value", content)])) = .ok v := by
  have htype : (Quoted.written "type".toList).chars = .ok "type".toList := Quoted.written_chars _
  have hvalue : (Quoted.written "value".toList).chars = .ok "value".toList :=
    Quoted.written_chars _
  have hchoice : Decoder.choice Kind.ofName? ⟨depth, false⟩ (.string (.written name.toList)) =
      .ok kind := Decoder.choice_written hkind ⟨depth, false⟩
  -- the kind stands first, so the content need not be held until it is known
  simp only [Fragment.written, Fragment.writtenMembers, decode, Site.enter, decodeMembers, bind,
    Except.bind, htype, hvalue, String.ofList_toList, hchoice, hcontent]
  rfl

mutual

/-- **Reading a written value.** It is read as it is settled. There have to be enough levels to open
it. -/
theorem decode_written : ∀ (v : Value) (depth : Nat), v.zerosUnsigned → v.encode.depth ≤ depth →
    decode ⟨depth, false⟩ (.written v.encode) = .ok v.settled
  | v, 0, _, hdepth => absurd (Nat.lt_of_lt_of_le v.depth_encode_pos hdepth) (Nat.lt_irrefl 0)
  | .null, depth + 1, _, _ => rfl
  | .text s, depth + 1, _, _ =>
    decode_tagged .text rfl (congrArg (Except.map text) (Decoder.text_written s _))
  | .bool b, depth + 1, _, _ => decode_tagged .bool rfl rfl
  | .integer n, depth + 1, _, _ =>
    decode_tagged .integer rfl (congrArg (Except.map integer) (Decoder.int64_written n _))
  | .decimal d, depth + 1, hzero, _ => by
    have hsign : d.size = 0 → d.negative = false := by
      simpa [zerosUnsigned, or_iff_not_imp_left] using hzero
    have hread := Decoder.parsed_written (d.read?_text hsign) ⟨depth, false⟩
    exact decode_tagged .decimal rfl (congrArg (Except.map decimal) hread)
  | .date d, depth + 1, _, _ => by
    have hread := Decoder.parsed_written d.ofText?_text ⟨depth, false⟩
    exact decode_tagged .date rfl (congrArg (Except.map date) hread)
  | .dateTime t, depth + 1, _, _ => by
    have hread := Decoder.parsed_written t.ofText?_chars ⟨depth, false⟩
    exact decode_tagged .dateTime rfl (congrArg (Except.map dateTime) hread)
  | .ref r, depth + 1, _, hdepth => by
    -- the reference is an object inside the tagged one
    have hcontent : r.encode.depth + 1 ≤ depth + 1 :=
      (depth_tagged "ref" r.encode).symm.le.trans hdepth
    cases depth with
    | zero => exact absurd (Nat.le_of_succ_le_succ hcontent) (Nat.not_succ_le_zero _)
    | succ inner =>
      exact decode_tagged .ref rfl (congrArg (Except.map ref) (r.decode_written inner false))
  | .list items, depth + 1, hzeros, hdepth => by
    -- the items are inside an array inside the tagged object
    have hcontent : (Json.array (encodeItems items)).depth + 1 ≤ depth + 1 :=
      (depth_tagged "list" (.array (encodeItems items))).symm.le.trans hdepth
    cases depth with
    | zero => exact absurd (Nat.le_of_succ_le_succ hcontent) (Nat.not_succ_le_zero _)
    | succ inner =>
      have hitems : depthOfItems (encodeItems items) ≤ inner :=
        Nat.le_of_succ_le_succ (Nat.le_of_succ_le_succ hcontent)
      have hread := decodeItems_written items inner hzeros hitems
      refine decode_tagged .list rfl ?_
      show (do
        let values ← decodeItems ⟨inner, false⟩ (Fragment.writtenItems (encodeItems items))
        raise none
        .ok (list values)) = Except.ok (list (itemsSettled items))
      rw [hread]
      rfl

/-- Written items are read as they are settled. -/
theorem decodeItems_written : ∀ (items : List Value) (depth : Nat), itemsZerosUnsigned items →
    depthOfItems (encodeItems items) ≤ depth →
    decodeItems ⟨depth, false⟩ (Fragment.writtenItems (encodeItems items)) =
      .ok (itemsSettled items)
  | [], depth, _, _ => rfl
  | item :: rest, depth, hzeros, hdepth => by
    obtain ⟨hitem, hrest⟩ := Bool.and_eq_true_iff.mp hzeros
    obtain ⟨hfirst, hothers⟩ := Nat.max_le.mp hdepth
    rw [encodeItems, Fragment.writtenItems, decodeItems, decode_written item depth hitem hfirst,
      decodeItems_written rest depth hrest hothers]
    rfl

end

mutual

/-- The numbers of a written value are whole: decimals are written as texts. -/
theorem isWhole_encode : ∀ v : Value, isWhole v.encode
  | .null | .text _ | .bool _ | .integer _ | .decimal _ | .date _ | .dateTime _ => rfl
  | .ref ⟨_, _, none⟩ | .ref ⟨_, _, some _⟩ => rfl
  | .list items => by
    show (true && (isWhole (.array (encodeItems items)) && true)) = true
    rw [isWhole, areWhole_encodeItems items]
    rfl

theorem areWhole_encodeItems : ∀ items : List Value, areWhole (encodeItems items)
  | [] => rfl
  | item :: rest => by
    rw [encodeItems, areWhole, isWhole_encode item, areWhole_encodeItems rest]
    rfl

end

/-- The text of a value is read as the value is settled. -/
theorem decode_text {v : Value} (hzeros : v.zerosUnsigned) (hdepth : v.encode.depth ≤ 127) :
    Json.decode decode v.encode.text = .ok v.settled := by
  rw [Json.decode_text decode v.isWhole_encode]
  exact v.decode_written 127 hzeros hdepth

/-- **Texts of values.** Unless a zero in it has a minus sign or it is too deep to be opened, the
text of a value stands for the value, scales of decimals and leap seconds at the end of a minute
included. Any other leap second is read as the second behind it, so that such values, and no others,
are not read back. -/
theorem decode_encode_text {v : Value} (hzeros : v.zerosUnsigned) (hdepth : v.encode.depth ≤ 127) :
    (Json.decode decode v.encode.text = .ok v ↔ v.leapsEndMinutes) ∧
      Json.decode decode v.encode.text = .ok v.settled := by
  have hread := decode_text hzeros hdepth
  refine ⟨?_, hread⟩
  rw [hread, Except.ok.injEq]
  exact v.settled_eq_self_iff

/-- A payment with its due date before the year zero, its time in a leap second, and its payee. -/
def payment : Value :=
  .list [.null, .decimal ⟨true, 7050, 3, by decide, by decide⟩, .date ⟨-1, 12, 31, by decide⟩,
    .dateTime ⟨⟨12345, 6, 7, by decide⟩, ⟨23, 59, 59, 1500000000, by decide⟩⟩,
    .list [.ref ⟨-5, "Fin \"A\"", none⟩, .integer 7, .bool true]]

theorem decode_payment_text :
    payment.zerosUnsigned ∧ payment.encode.depth = 6 ∧ payment.leapsEndMinutes ∧
      Json.decode decode payment.encode.text = .ok payment :=
  ⟨by decide, by decide, by decide, (decode_encode_text (by decide) (by decide)).1.mpr (by decide)⟩

/-- Noon and five seconds, and then half of the leap second behind them. -/
def earlyLeap : Value :=
  .dateTime ⟨⟨2024, 1, 1, by decide⟩, ⟨12, 0, 5, 1500000000, by decide⟩⟩

/-- It is written as half a second past six seconds, and so it is not read back. -/
theorem decode_earlyLeap_ne :
    earlyLeap.zerosUnsigned ∧ earlyLeap.encode.depth ≤ 127 ∧
      earlyLeap.encode = .object [("type", .string "date_time"),
        ("value", .string "2024-01-01T12:00:06.500")] ∧
      Json.decode decode earlyLeap.encode.text =
        .ok (.dateTime ⟨⟨2024, 1, 1, by decide⟩, ⟨12, 0, 6, 500000000, by decide⟩⟩) ∧
      Json.decode decode earlyLeap.encode.text ≠ .ok earlyLeap := by
  have hread := decode_text (v := earlyLeap) rfl (by decide)
  refine ⟨rfl, by decide, rfl, hread, ?_⟩
  rw [hread, ne_eq, Except.ok.injEq, settled_eq_self_iff]
  decide

end Value

end DataGrid
