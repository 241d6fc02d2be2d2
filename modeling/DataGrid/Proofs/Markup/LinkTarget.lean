import DataGrid.Proofs.Markup.Escape
import DataGrid.Proofs.Markup.Skeleton
import DataGrid.Proofs.Markup.Template

/-!
# Targets of links

Where a link goes is read back from its markup: the quotes of a tag separate the names of its
attributes from their values, and the target is the value of one of them without its entities. An
escaped address has no quote in it, so it is the whole value.

## Main definitions

* `attributes`: the attributes of a tag, from its parts between quotes
* `linkTarget?`: the target of the link that markup starts with

## Main results

* `linkTarget?_of_lookup`: the target of a link with an escaped address
* `toList_fillUrl_of_place`: templates with one place for an address
-/

namespace DataGrid.Markup

open Text

/-! ## Reading tags -/

/-- **Attributes of a tag**, from its parts between quotes: their names, with what else stands in
front of the values, and their values. A name does not reach behind the end of the tag. -/
def attributes : List (List Char) → List (List Char × List Char)
  | name :: value :: parts =>
    if '>' ∈ name then [] else (name, value) :: attributes parts
  | _ => []

/-- The name of the attribute that has the target of a link. -/
def targetName : List Char := " href=".toList

/-- **Target of a link.** The address of the link that markup starts with. -/
def linkTarget? (html : String) : Option String := do
  let tag ← stripStart ['<', 'a'] html.toList
  let value ← (attributes (tag.splitOn '"')).lookup targetName
  return String.ofList (decodeEntities value)

/-- An attribute is read where neither its name nor its value has a quote. -/
theorem attributes_splitOn {name value : List Char} (hend : '>' ∉ name) (hname : '"' ∉ name)
    (hvalue : '"' ∉ value) (rest : List Char) :
    attributes ((name ++ '"' :: (value ++ '"' :: rest)).splitOn '"') =
      (name, value) :: attributes (rest.splitOn '"') := by
  rw [List.splitOn_append_cons_self_of_not_mem hname,
    List.splitOn_append_cons_self_of_not_mem hvalue, attributes, if_neg hend]

/-- The target is the first attribute where the address follows its name. -/
theorem lookup_targetName (address : String) (rest : List Char) :
    (attributes ((targetName ++ '"' :: ((escape address).toList ++ '"' :: rest)).splitOn
      '"')).lookup targetName = some (escape address).toList := by
  have hend : '>' ∉ targetName := by decide +kernel
  have hname : '"' ∉ targetName := by decide +kernel
  have hvalue : '"' ∉ (escape address).toList := by
    rw [toList_escape]
    exact notMem_escapeChars_of_isDelimiter rfl _
  rw [attributes_splitOn hend hname hvalue, List.lookup_cons_self]

/-- An escaped address is read back from the target. -/
theorem linkTarget?_of_lookup {html address : String} {tag : List Char}
    (h : html.toList = '<' :: 'a' :: tag)
    (hlookup : (attributes (tag.splitOn '"')).lookup targetName = some (escape address).toList) :
    linkTarget? html = some address := by
  have hstrip : stripStart ['<', 'a'] html.toList = some tag := by
    rw [h]
    exact stripStart_append ['<', 'a'] tag
  have hvalue : String.ofList (decodeEntities (escape address).toList) = address := by
    rw [toList_escape, decodeEntities_escapeChars, String.ofList_toList]
  rw [linkTarget?, hstrip, Option.bind_eq_bind, Option.bind_some, hlookup]
  exact congrArg some hvalue

/-- Other attributes may stand in front of the target. -/
example : linkTarget? "<a class=\"x\" href=\"/a?b=1&amp;c=2\">Ada</a>" = some "/a?b=1&c=2" := by
  decide +kernel

/-! ## Templates -/

/-- A template with one place for an address is filled there. -/
theorem toList_fillUrl_of_place {template : String} {before after : List Char}
    (h : template.toList = before ++ '\x7b' :: (addressTail ++ after)) (hbefore : '\x7b' ∉ before)
    (hafter : '\x7b' ∉ after) (text : String) :
    (fillUrl template text).toList = before ++ (text.toList ++ after) := by
  rw [toList_fillUrl, ← replaceAll_addressTail, h, replaceAll_append_of_notMem hbefore,
    replaceAll_cons_of_some (stripStart_append _ _), replaceAll_of_notMem hafter]

/-- A template that starts with a link to its place is filled to a link to the address. -/
theorem linkTarget?_fillUrl {template : String} {rest : List Char}
    (h : template.toList =
      ('<' :: 'a' :: targetName ++ ['"']) ++ '\x7b' :: (addressTail ++ '"' :: rest))
    (hrest : '\x7b' ∉ rest) (address : String) :
    linkTarget? (fillUrl template (escape address)) = some address := by
  have hbefore : '\x7b' ∉ '<' :: 'a' :: targetName ++ ['"'] := by decide +kernel
  have hafter : '\x7b' ∉ '"' :: rest := List.not_mem_cons_of_ne_of_not_mem (by decide) hrest
  have hfilled := toList_fillUrl_of_place h hbefore hafter (escape address)
  rw [List.append_assoc] at hfilled
  exact linkTarget?_of_lookup hfilled (lookup_targetName address rest)

end DataGrid.Markup
