import DataGrid.Attribute.Basic
import DataGrid.Proofs.Markup.Escape
import DataGrid.Proofs.Markup.Skeleton
import DataGrid.Proofs.Numeric.Digits
import DataGrid.View.PortfolioEntry
import Mathlib.Data.List.Infix

/-!
# Links in cells

With the usual settings a cell has a link of its own where a formatter writes a reference with an
address. No other formatter for attributes opens a link, whatever it is given.

## Main definitions

* `HasAnchor`: markup in which a link is opened
* `Markup.opensNoLink`: texts in which no tag opens a link, even with other such texts behind them
* `Value.isLink`: references with an address

## Main results

* `Formatter.not_hasAnchor_of_kind`: formatters that open no link
* `AttributeKind.hasAnchor_apply_iff`: cells of attributes that open a link
* `Formatter.not_hasAnchor_list_texts`, `not_hasAnchor_renderStatus`: lists of texts, and labels of
  statuses
-/

namespace DataGrid

open Calendar Markup Numeric

/-- **Anchor.** A link is opened in the markup. -/
def HasAnchor (html : String) : Prop := "<a ".toList <:+: html.toList

instance (html : String) : Decidable (HasAnchor html) :=
  inferInstanceAs (Decidable ("<a ".toList <:+: html.toList))

namespace Markup

/-! ## Texts that open no link -/

/-- Whether each tag of a text starts with another letter than a link. A tag must not be cut off at
the end of the text, so such texts can be put together. -/
def opensNoLink : List Char → Bool
  | [] => true
  | c :: s => (c != '<' || s.head?.any (· != 'a')) && opensNoLink s

theorem opensNoLink_append {s t : List Char} (hs : opensNoLink s) (ht : opensNoLink t) :
    opensNoLink (s ++ t) := by
  induction s with
  | nil => exact ht
  | cons c s ih =>
    rw [opensNoLink, Bool.and_eq_true] at hs
    rw [List.cons_append, opensNoLink, Bool.and_eq_true]
    refine ⟨?_, ih hs.2⟩
    cases s with
    | nil =>
      -- a tag must not be cut off, so the last character opens none
      have hlast : (c != '<') = true := by simpa using hs.1
      rw [hlast, Bool.true_or]
    | cons d s => exact hs.1

theorem opensNoLink_toList_append {s t : String} (hs : opensNoLink s.toList)
    (ht : opensNoLink t.toList) : opensNoLink (s ++ t).toList := by
  rw [String.toList_append]
  exact opensNoLink_append hs ht

theorem opensNoLink_of_notMem {s : List Char} (h : '<' ∉ s) : opensNoLink s := by
  induction s with
  | nil => rfl
  | cons c s ih =>
    obtain ⟨hc, hs⟩ := List.ne_and_not_mem_of_not_mem_cons h
    rw [opensNoLink, ih hs, Bool.and_true, bne_iff_ne.mpr hc.symm, Bool.true_or]

theorem opensNoLink_intercalate {separator : List Char} {texts : List (List Char)}
    (hseparator : opensNoLink separator) (h : ∀ s ∈ texts, opensNoLink s) :
    opensNoLink (separator.intercalate texts) := by
  induction texts with
  | nil => rfl
  | cons s texts ih =>
    obtain ⟨hs, htexts⟩ := List.forall_mem_cons.mp h
    cases texts with
    | nil => rwa [List.intercalate_singleton]
    | cons next texts =>
      rw [List.intercalate_cons_cons]
      exact opensNoLink_append (opensNoLink_append hs hseparator) (ih htexts)

theorem not_infix_of_opensNoLink {s : List Char} (h : opensNoLink s) : ¬ ['<', 'a', ' '] <:+: s := by
  induction s with
  | nil => simp
  | cons c s ih =>
    rw [opensNoLink, Bool.and_eq_true] at h
    intro hanchor
    rcases List.infix_cons_iff.mp hanchor with hprefix | hinfix
    · -- a link at the start is a tag whose letter is that of links
      obtain ⟨rfl, hrest⟩ := List.cons_prefix_cons.mp hprefix
      cases s with
      | nil => simp at hrest
      | cons d s =>
        obtain ⟨rfl, -⟩ := List.cons_prefix_cons.mp hrest
        simp at h
    · exact ih h.2 hinfix

end Markup

theorem not_hasAnchor_of_opensNoLink {html : String} (h : opensNoLink html.toList) :
    ¬ HasAnchor html := not_infix_of_opensNoLink h

/-- Escaped texts open no link. -/
theorem opensNoLink_escape (s : String) : opensNoLink (escape s).toList := by
  rw [toList_escape]
  exact opensNoLink_of_notMem (notMem_escapeChars_of_isDelimiter rfl _)

/-! ## Values -/

/-- **References with an address.** -/
def Value.isLink : Value → Bool
  | .ref ⟨_, _, url⟩ => url.isSome
  | _ => false

theorem Value.exists_of_isLink {v : Value} (h : v.isLink) :
    ∃ id label url, v = .ref ⟨id, label, some url⟩ := by
  cases v with
  | ref r =>
    obtain ⟨id, label, url⟩ := r
    obtain ⟨url, rfl⟩ := Option.isSome_iff_exists.mp h
    exact ⟨id, label, url, rfl⟩
  | null | text | bool | integer | decimal | date | dateTime | list => cases h

/-- What is no link is written as a plain value. -/
theorem renderItem_of_not_isLink {v : Value} (h : ¬ v.isLink) (ctx : Context) :
    renderItem v ctx = renderPlain v ctx := by
  unfold renderItem
  split
  · exact absurd rfl h
  · rfl

variable (messages : Resolver)

theorem opensNoLink_empty : opensNoLink (Context.empty ⟨{}, messages⟩).toList := by
  have hplaceholder : opensNoLink ({} : FormatSettings).emptyPlaceholder.toList := by
    decide +kernel
  exact hplaceholder

theorem opensNoLink_renderPlain (v : Value) :
    opensNoLink (renderPlain v ⟨{}, messages⟩).toList := by
  rw [renderPlain]
  split
  · exact opensNoLink_empty messages
  · exact opensNoLink_escape _

theorem opensNoLink_renderItem {v : Value} (h : v.isLink = false) :
    opensNoLink (renderItem v ⟨{}, messages⟩).toList := by
  rw [renderItem_of_not_isLink (Bool.eq_false_iff.mp h)]
  exact opensNoLink_renderPlain messages v

theorem hasAnchor_renderItem {v : Value} (h : v.isLink) : HasAnchor (renderItem v ⟨{}, messages⟩) := by
  obtain ⟨id, label, url, rfl⟩ := Value.exists_of_isLink h
  have hstart : "<a href=\"".toList = "<a ".toList ++ "href=\"".toList := by decide +kernel
  apply List.IsPrefix.isInfix
  simp only [renderItem, String.toList_append, hstart, List.append_assoc]
  exact List.prefix_append _ _

/-! ## Numbers and dates -/

theorem opensNoLink_of_isDigit {s : List Char} (h : ∀ c ∈ s, c.isDigit) : opensNoLink s := by
  refine opensNoLink_of_notMem fun hmem => ?_
  have hdigit := h _ hmem
  cases hdigit

theorem opensNoLink_groupDigits {separator s : List Char} (hseparator : opensNoLink separator)
    (h : ∀ c ∈ s, c.isDigit) : opensNoLink (groupDigits separator s) := by
  induction s with
  | nil => rfl
  | cons c s ih =>
    obtain ⟨hc, hs⟩ := List.forall_mem_cons.mp h
    have hfirst : opensNoLink [c] := opensNoLink_of_isDigit (by simpa using hc)
    rw [groupDigits]
    split
    · exact opensNoLink_append (opensNoLink_append hfirst hseparator) (ih hs)
    · exact opensNoLink_append hfirst (ih hs)

theorem opensNoLink_formatDecimal (d : Decimal) : opensNoLink (formatDecimal d {}).toList := by
  have hpoint : opensNoLink ({} : FormatSettings).decimalSeparator.toList := by decide +kernel
  have hseparator : opensNoLink ({} : FormatSettings).groupingSeparator.toList := by decide +kernel
  rw [formatDecimal, String.toList_ofList]
  refine opensNoLink_append (opensNoLink_append ?_ ?_) ?_
  · split <;> rfl
  · exact opensNoLink_groupDigits hseparator fun c => isDigit_of_mem_digits
  · split
    · rfl
    · refine opensNoLink_append hpoint (opensNoLink_of_isDigit fun c hc => ?_)
      rw [Decimal.placeDigits] at hc
      split at hc
      · cases hc
      · exact isDigit_of_mem_padded hc

/-- A number is filled up with characters that open no tag. -/
theorem opensNoLink_fill (padding : Padding) (width : Nat) (withPlus : Bool) (n : Int) :
    opensNoLink (fill padding width withPlus n) := by
  have hsign : opensNoLink (if n < 0 then ['-'] else if withPlus then ['+'] else []) := by
    split_ifs <;> rfl
  have hdigits (m : Nat) : opensNoLink (digits m) :=
    opensNoLink_of_isDigit fun _ => isDigit_of_mem_digits
  have hpadded (width m : Nat) : opensNoLink (padded width m) :=
    opensNoLink_of_isDigit fun _ => isDigit_of_mem_padded
  cases padding with
  | nothing => exact opensNoLink_append hsign (hdigits _)
  | zeros => exact opensNoLink_append hsign (hpadded _ _)
  | blanks =>
    refine opensNoLink_append (opensNoLink_append (opensNoLink_of_notMem ?_) hsign) (hdigits _)
    intro hmem
    cases List.eq_of_mem_replicate hmem

/-- The fields of the usual pattern for dates. -/
def dateFields : List Field :=
  [.figure .day .zeros, .literal '/', .figure .month .zeros, .literal '/', .figure .year .zeros]

/-- The fields of the usual pattern for points in time. -/
def timeFields : List Field :=
  dateFields ++ [.literal ' ', .figure .hour .zeros, .literal ':', .figure .minute .zeros]

theorem ofText?_datePattern :
    Pattern.ofText? ({} : FormatSettings).datePattern = some dateFields := by
  decide +kernel

theorem ofText?_datetimePattern :
    Pattern.ofText? ({} : FormatSettings).datetimePattern = some timeFields := by
  decide +kernel

theorem opensNoLink_field {field : Field} (h : field ∈ timeFields) {m : Moment} {part : List Char}
    (hpart : m.field? field = some part) : opensNoLink part := by
  have htime {figure : Time → Nat} {t? : Option Time}
      (h : t?.map (fun t => fill .zeros 2 false (figure t)) = some part) : opensNoLink part := by
    obtain ⟨t, -, rfl⟩ := Option.map_eq_some_iff.mp h
    exact opensNoLink_fill _ _ _ _
  have hliteral {c : Char} (hc : (c != '<') = true) (h : m.field? (.literal c) = some part) :
      opensNoLink part := by
    obtain rfl := Option.some.inj h
    rw [opensNoLink, hc]
    rfl
  have hnumber {n : Int} (h : some (fill .zeros 2 false n) = some part) : opensNoLink part := by
    obtain rfl := Option.some.inj h
    exact opensNoLink_fill _ _ _ _
  simp only [timeFields, dateFields, List.cons_append, List.nil_append, List.mem_cons,
    List.not_mem_nil, or_false] at h
  rcases h with rfl | rfl | rfl | rfl | rfl | rfl | rfl | rfl | rfl
  · exact hnumber hpart
  · exact hliteral rfl hpart
  · exact hnumber hpart
  · exact hliteral rfl hpart
  · obtain rfl := Option.some.inj hpart
    rw [fillYear]
    split <;> exact opensNoLink_fill _ _ _ _
  · exact hliteral rfl hpart
  · exact htime hpart
  · exact hliteral rfl hpart
  · exact htime hpart

theorem opensNoLink_fields {fields : List Field} (h : ∀ field ∈ fields, field ∈ timeFields)
    {m : Moment} {parts : List (List Char)} (hparts : fields.mapM m.field? = some parts) :
    opensNoLink parts.flatten := by
  induction fields generalizing parts with
  | nil =>
    obtain rfl := Option.some.inj hparts
    rfl
  | cons field fields ih =>
    obtain ⟨hfield, hrest⟩ := List.forall_mem_cons.mp h
    simp only [List.mapM_cons, Option.bind_eq_bind, Option.bind_eq_some_iff, Option.pure_def,
      Option.some.injEq] at hparts
    obtain ⟨part, hpart, rest, hmap, rfl⟩ := hparts
    rw [List.flatten_cons]
    exact opensNoLink_append (opensNoLink_field hfield hpart) (ih hrest hmap)

theorem opensNoLink_renderMoment {pattern : String} {fields : List Field}
    (hpattern : Pattern.ofText? pattern = some fields)
    (h : ∀ field ∈ fields, field ∈ timeFields) (m : Moment) (v : Value) :
    opensNoLink (renderMoment pattern m v).toList := by
  rw [renderMoment]
  split
  · rename_i s hs
    simp only [Moment.format?, hpattern, Option.bind_eq_bind, Option.bind_some,
      Option.bind_eq_some_iff, Option.pure_def, Option.some.injEq] at hs
    obtain ⟨parts, hparts, rfl⟩ := hs
    rw [String.toList_ofList]
    exact opensNoLink_fields h hparts
  · exact opensNoLink_escape _

/-! ## Formatters -/

namespace Formatter

variable {ρ : Type}

/-- **Formatters that open no link.** Texts, flags, numbers and dates open none, and neither does
what is none of these. -/
theorem not_hasAnchor_of_kind {f : Formatter ρ}
    (h : f.kind ∈ ["plain", "boolean", "number", "date"]) (row : ρ) (v : Value) :
    ¬ HasAnchor (f.apply row v ⟨{}, messages⟩) := by
  apply not_hasAnchor_of_opensNoLink
  have hplain := opensNoLink_renderPlain messages v
  cases f with
  | plain => exact hplain
  | boolean =>
    cases v with
    | bool b =>
      cases b with
      | true => exact (by decide +kernel : opensNoLink ({} : FormatSettings).booleanTrue.toList)
      | false => exact (by decide +kernel : opensNoLink ({} : FormatSettings).booleanFalse.toList)
    | null | text | integer | decimal | date | dateTime | ref | list => exact hplain
  | number =>
    cases v with
    | decimal | integer => exact opensNoLink_formatDecimal _
    | null | text | bool | date | dateTime | ref | list => exact hplain
  | date =>
    cases v with
    | date d =>
      exact opensNoLink_renderMoment ofText?_datePattern (fun _ => List.mem_append_left _) _ _
    | dateTime t => exact opensNoLink_renderMoment ofText?_datetimePattern (fun _ => id) _ _
    | null | text | bool | integer | decimal | ref | list => exact hplain
  | list | reference | image | stringFormat | linkWithConfirmation | custom =>
    simp [kind] at h

/-- A reference is written with a link just where it has an address. -/
theorem hasAnchor_reference_iff (row : ρ) (v : Value) :
    HasAnchor ((reference : Formatter ρ).apply row v ⟨{}, messages⟩) ↔ v.isLink := by
  cases h : v.isLink with
  | true => exact iff_of_true (hasAnchor_renderItem messages h) rfl
  | false =>
    refine iff_of_false (not_hasAnchor_of_opensNoLink ?_) Bool.false_ne_true
    exact opensNoLink_renderItem messages h

/-- A list of texts opens no link. -/
theorem not_hasAnchor_list_texts (row : ρ) (texts : List String) :
    ¬ HasAnchor ((list : Formatter ρ).apply row (toValue texts) ⟨{}, messages⟩) := by
  apply not_hasAnchor_of_opensNoLink
  cases texts with
  | nil => exact opensNoLink_renderItem messages rfl
  | cons text texts =>
    have hseparator : opensNoLink ({} : FormatSettings).listSeparator.toList := by decide +kernel
    have happly : (list : Formatter ρ).apply row (toValue (text :: texts)) ⟨{}, messages⟩ =
        ({} : FormatSettings).listSeparator.intercalate
          (((text :: texts).map toValue).map (renderItem · ⟨{}, messages⟩)) := rfl
    rw [happly, String.toList_intercalate]
    apply opensNoLink_intercalate hseparator
    simp only [List.map_map, List.forall_mem_map]
    intro text _
    have hlink : (Value.text text).isLink = false := rfl
    exact opensNoLink_renderItem messages hlink

end Formatter

/-- **Cells of attributes.** An attribute's value is written with a link just where the attribute is
for references and the value is a reference with an address. -/
theorem AttributeKind.hasAnchor_apply_iff {ρ : Type} (kind : AttributeKind) (row : ρ) (v : Value) :
    HasAnchor ((kind.formatter : Formatter ρ).apply row v ⟨{}, messages⟩) ↔
      kind = .reference ∧ v.isLink := by
  cases kind with
  | reference => rw [formatter, Formatter.hasAnchor_reference_iff, and_iff_right rfl]
  | text | boolean | number | date =>
    refine iff_of_false ?_ fun h => nomatch h.1
    exact Formatter.not_hasAnchor_of_kind messages (by simp [formatter, Formatter.kind]) row v

/-- The label of a status opens no link. -/
theorem not_hasAnchor_renderStatus (row : PortfolioEntryRow) (v : Value) :
    ¬ HasAnchor (row.renderStatus v ⟨{}, messages⟩) := by
  apply not_hasAnchor_of_opensNoLink
  rw [PortfolioEntryRow.renderStatus]
  cases row.status with
  | none => exact opensNoLink_empty messages
  | some status =>
    have hstart : opensNoLink "<span class=\"label label-".toList := by decide +kernel
    have hmiddle : opensNoLink "\">".toList := by decide +kernel
    have hend : opensNoLink "</span>".toList := by decide +kernel
    have hclass := opensNoLink_toList_append hstart (opensNoLink_escape status.cssClass)
    have hname := opensNoLink_toList_append hmiddle (opensNoLink_escape status.name)
    have hlabel := opensNoLink_toList_append (opensNoLink_toList_append hclass hname) hend
    rw [← String.append_assoc] at hlabel
    exact hlabel

end DataGrid
