import DataGrid.Entity.Routes
import DataGrid.Proofs.Numeric.Digits
import Mathlib.Data.List.Basic

/-!
# Addresses of pages

An address is made of segments, each behind a slash. Some of them are words, which say what page it
is, and the others are ids. No slash stands inside a segment, and ids start with a digit or a minus
sign, as no word does. So the segments are read off the address, and the page with its ids off the
segments.

## Main definitions

* `Segment`, `Segment.path`: words and ids, and segments behind slashes
* `Page`, `Routes.address`: the pages that have ids, and their addresses
* `Page.segments`, `Page.ofSegments?`: what an address is made of, and the page that this stands for

## Main results

* `idText_inj`: different ids are written differently
* `Segment.path_injective`: segments are read off a path
* `Routes.address_under_injective`: different pages have different addresses, behind any text
* `Routes.address_standard_eq_iff`: the usual addresses are unambiguous
-/

namespace DataGrid

open Numeric

/-! ## Ids as texts -/

/-- Different ids are written differently. -/
theorem idText_inj {a b : Int64} : idText a = idText b ↔ a = b := by
  rw [idText, idText, String.ofList_inj, signed_inj, Int64.toInt_inj]

/-- An id starts with a digit or a minus sign, and goes on with digits. -/
theorem exists_toList_idText (id : Int64) :
    ∃ c ds, (idText id).toList = c :: ds ∧ (c = '-' ∨ c.isDigit) ∧ ∀ d ∈ ds, d.isDigit := by
  rw [idText, String.toList_ofList, signed]
  split
  · exact ⟨'-', _, rfl, .inl rfl, fun d hd => isDigit_of_mem_digits hd⟩
  · obtain ⟨d, ds, hdigits, hd, hds, -⟩ := digits_eq_cons id.toInt.natAbs
    exact ⟨d, ds, hdigits, .inr hd, hds⟩

/-! ## Segments -/

/-- Whether a text starts, but not with a digit or a minus sign, and has no slash. -/
def isWord (s : String) : Bool :=
  s.toList.head?.any (fun c => !c.isDigit && c != '-') && !s.toList.contains '/'

/-- **Segment.** What stands behind a slash of an address. -/
inductive Segment where
  | word (s : String) (h : isWord s := by decide)
  | id (n : Int64)

namespace Segment

/-- The text of a segment. -/
def text : Segment → String
  | word s _ => s
  | id n => idText n

/-- **Path.** Segments, each behind a slash. -/
def path (segments : List Segment) : List Char :=
  segments.flatMap fun segment => '/' :: segment.text.toList

/-- An id is no word. -/
theorem not_isWord_idText (id : Int64) : ¬ isWord (idText id) := by
  obtain ⟨c, ds, htext, hc, -⟩ := exists_toList_idText id
  rcases hc with rfl | hdigit
  · simp [isWord, htext]
  · simp [isWord, htext, hdigit]

theorem slash_notMem_text (segment : Segment) : '/' ∉ segment.text.toList := by
  cases segment with
  | word s h =>
    rw [isWord, Bool.and_eq_true, Bool.not_eq_true', Bool.eq_false_iff] at h
    exact fun hslash => h.2 (List.contains_iff_mem.mpr hslash)
  | id n =>
    obtain ⟨c, ds, htext, hc, hds⟩ := exists_toList_idText n
    rw [text, htext, List.mem_cons]
    rintro (rfl | hslash)
    · rcases hc with h | h <;> exact absurd h (by decide)
    · exact absurd (hds _ hslash) (by decide)

/-- Different segments have different texts. -/
theorem text_injective : Function.Injective text := by
  intro segment other h
  cases segment with
  | word s hs =>
    cases other with
    | word t _ =>
      obtain rfl : s = t := h
      rfl
    | id b =>
      obtain rfl : s = idText b := h
      exact absurd hs (not_isWord_idText b)
  | id a =>
    cases other with
    | word t ht =>
      obtain rfl : idText a = t := h
      exact absurd ht (not_isWord_idText a)
    | id b => rw [idText_inj.mp h]

/-- **Splitting a path.** Its parts are the texts of the segments, behind an empty part in front of
the first slash. -/
theorem splitOn_path (segments : List Segment) :
    (path segments).splitOn '/' = [] :: segments.map (·.text.toList) := by
  -- Induction on the segments, with any part without a slash in front of them.
  have hbehind : ∀ first : List Char, '/' ∉ first →
      (first ++ path segments).splitOn '/' = first :: segments.map (·.text.toList) := by
    induction segments with
    | nil =>
      intro first hfirst
      rw [path, List.flatMap_nil, List.append_nil, List.splitOn_eq_singleton hfirst, List.map_nil]
    | cons segment rest ih =>
      intro first hfirst
      rw [path, List.flatMap_cons, ← path, List.cons_append,
        List.splitOn_append_cons_self_of_not_mem hfirst, ih _ segment.slash_notMem_text,
        List.map_cons]
  exact hbehind [] List.not_mem_nil

/-- **Reading a path.** Different segments make different paths. -/
theorem path_injective : Function.Injective path := by
  intro segments others h
  have hparts : segments.map (·.text.toList) = others.map (·.text.toList) := by
    have hsplit := congrArg (List.splitOn '/') h
    rw [splitOn_path, splitOn_path] at hsplit
    exact (List.cons.inj hsplit).2
  have htext : Function.Injective fun segment : Segment => segment.text.toList :=
    fun _ _ heq => text_injective (String.toList_inj.mp heq)
  exact List.map_injective_iff.mpr htext hparts

/-- So do they behind a common start. -/
theorem append_path_injective (start : List Char) :
    Function.Injective fun segments => start ++ path segments :=
  (List.append_right_injective start).comp path_injective

end Segment

/-! ## Pages -/

/-- **Page.** A page with the ids that its address is made from. -/
inductive Page where
  | actorView (id : Int64)
  | orgUnitView (id : Int64)
  | portfolioOverview (id : Int64)
  | portfolioEntryOverview (id : Int64)
  | purchaseOrderView (id : Int64)
  | lineItemView (id : Int64)
  | costCenterView (id : Int64)
  | selectLineItem (entry order item : Int64)
  | managePortfolioType (id : Int64)
  | deletePortfolioType (id : Int64)
  | manageStakeholder (portfolio id : Int64)
  | deleteStakeholder (portfolio id : Int64)
  deriving Repr, DecidableEq

/-- The address of a page. -/
def Routes.address (routes : Routes) : Page → String
  | .actorView id => routes.actorView id
  | .orgUnitView id => routes.orgUnitView id
  | .portfolioOverview id => routes.portfolioOverview id
  | .portfolioEntryOverview id => routes.portfolioEntryOverview id
  | .purchaseOrderView id => routes.purchaseOrderView id
  | .lineItemView id => routes.lineItemView id
  | .costCenterView id => routes.costCenterView id
  | .selectLineItem entry order item => routes.selectLineItem entry order item
  | .managePortfolioType id => routes.managePortfolioType id
  | .deletePortfolioType id => routes.deletePortfolioType id
  | .manageStakeholder portfolio id => routes.manageStakeholder portfolio id
  | .deleteStakeholder portfolio id => routes.deleteStakeholder portfolio id

namespace Page

/-- The segments of a page's usual address. -/
def segments : Page → List Segment
  | actorView id => [.word "actor", .id id, .word "view"]
  | orgUnitView id => [.word "org-unit", .id id, .word "view?page=0"]
  | portfolioOverview id => [.word "portfolio", .id id, .word "overview"]
  | portfolioEntryOverview id => [.word "portfolio-entry", .id id, .word "overview"]
  | purchaseOrderView id => [.word "purchase-order", .id id, .word "view"]
  | lineItemView id => [.word "purchase-order", .word "line-item", .id id, .word "view"]
  | costCenterView id => [.word "cost-center", .id id, .word "view"]
  | selectLineItem entry order item =>
    [.word "portfolio-entry", .id entry, .word "financial", .word "work-order", .id order,
      .word "line-item", .id item, .word "select"]
  | managePortfolioType id =>
    [.word "admin", .word "config", .word "portfolio", .word "type", .id id, .word "manage"]
  | deletePortfolioType id =>
    [.word "admin", .word "config", .word "portfolio", .word "type", .id id, .word "delete"]
  | manageStakeholder portfolio id =>
    [.word "portfolio", .id portfolio, .word "stakeholder", .id id, .word "manage"]
  | deleteStakeholder portfolio id =>
    [.word "portfolio", .id portfolio, .word "stakeholder", .id id, .word "delete"]

/-- The page that segments stand for. -/
def ofSegments? : List Segment → Option Page
  | [.word "actor" _, .id id, .word "view" _] => some (actorView id)
  | [.word "org-unit" _, .id id, .word "view?page=0" _] => some (orgUnitView id)
  | [.word "portfolio" _, .id id, .word "overview" _] => some (portfolioOverview id)
  | [.word "portfolio-entry" _, .id id, .word "overview" _] => some (portfolioEntryOverview id)
  | [.word "purchase-order" _, .id id, .word "view" _] => some (purchaseOrderView id)
  | [.word "purchase-order" _, .word "line-item" _, .id id, .word "view" _] =>
    some (lineItemView id)
  | [.word "cost-center" _, .id id, .word "view" _] => some (costCenterView id)
  | [.word "portfolio-entry" _, .id entry, .word "financial" _, .word "work-order" _, .id order,
      .word "line-item" _, .id item, .word "select" _] => some (selectLineItem entry order item)
  | [.word "admin" _, .word "config" _, .word "portfolio" _, .word "type" _, .id id,
      .word "manage" _] => some (managePortfolioType id)
  | [.word "admin" _, .word "config" _, .word "portfolio" _, .word "type" _, .id id,
      .word "delete" _] => some (deletePortfolioType id)
  | [.word "portfolio" _, .id portfolio, .word "stakeholder" _, .id id, .word "manage" _] =>
    some (manageStakeholder portfolio id)
  | [.word "portfolio" _, .id portfolio, .word "stakeholder" _, .id id, .word "delete" _] =>
    some (deleteStakeholder portfolio id)
  | _ => none

/-- **Reading segments.** Those of a page stand for it. -/
theorem ofSegments?_segments (page : Page) : ofSegments? page.segments = some page := by
  cases page <;> rfl

theorem segments_injective : Function.Injective segments := by
  intro page other h
  have hread : ofSegments? page.segments = ofSegments? other.segments := congrArg _ h
  rwa [ofSegments?_segments, ofSegments?_segments, Option.some.injEq] at hread

end Page

namespace Routes

/-- **Addresses are paths.** Behind the text that all of them start with, an address is the path of
the page's segments. -/
theorem toList_address_under (base : String) (page : Page) :
    ((under base).address page).toList = base.toList ++ Segment.path page.segments := by
  cases page <;> simp [address, under, Segment.path, Page.segments, Segment.text]

/-- **Different pages have different addresses**, whatever text all of them start with. -/
theorem address_under_injective (base : String) : Function.Injective (under base).address := by
  intro page other h
  have hchars := congrArg String.toList h
  rw [toList_address_under, toList_address_under] at hchars
  exact Page.segments_injective (Segment.append_path_injective base.toList hchars)

/-- The search for managers is no page with an id. -/
theorem address_under_ne_managerSearch (base : String) (page : Page) :
    (under base).address page ≠ (under base).managerSearch := by
  intro h
  have hsearch : ((under base).managerSearch).toList =
      base.toList ++ Segment.path [.word "json", .word "manager"] := by
    simp [under, Segment.path, Segment.text]
  have hchars := congrArg String.toList h
  rw [toList_address_under, hsearch] at hchars
  have hsegments : page.segments = [.word "json", .word "manager"] :=
    Segment.append_path_injective base.toList hchars
  -- these segments do not stand for a page
  have hread := page.ofSegments?_segments
  rw [hsegments] at hread
  cases hread

/-- **Unambiguous addresses.** Two usual addresses are equal just where they are of one page with
the same ids, and none of them is the address of the search for managers. -/
theorem address_standard_eq_iff (page other : Page) :
    (standard.address page = standard.address other ↔ page = other) ∧
      standard.address page ≠ standard.managerSearch :=
  ⟨(address_under_injective "").eq_iff, address_under_ne_managerSearch "" page⟩

/-- A line item has another address than an order, also where both ids are below zero. -/
example : standard.address (.lineItemView (-1)) = "/purchase-order/line-item/-1/view" ∧
    standard.address (.purchaseOrderView (-1)) = "/purchase-order/-1/view" := by decide +kernel

end Routes

end DataGrid
