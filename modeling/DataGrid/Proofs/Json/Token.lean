import DataGrid.Json.Writer
import DataGrid.Proofs.Numeric.Digits

/-!
# Tokens of written values

A written value is cut into its own tokens again, whatever follows it. What follows a number
must not go on with it.

## Main definitions

* `Piece.written`, `Quoted.written`: what a reader sees of a written text
* `isWhole`: values whose numbers are whole
* `tokensOf`: the tokens of a value
* `EndsNumber`: texts that no numeral goes on with
* `tokensWithin`: tokens by a number of steps

## Main results

* `scanQuoted_flatMap_quoteChar`: a written text is scanned up to its closing quote
* `Quoted.written_chars`: what is scanned stands for the text that was written
* `tokens_chars_append`: a written value is cut into its tokens
* `tokens_eq_tokensWithin`: a text is cut in as many steps as it has characters
-/

namespace DataGrid.Json

open Numeric

/-! ## Quoted texts -/

/-- The piece that a written character is scanned as. Control characters without a letter of
their own are written by their number. -/
def Piece.written (c : Char) : Piece :=
  if c.toNat < 0x20 ∧ c ∉ ['\x08', '\x0c', '\n', '\r', '\t'] then .unit c.toNat else .char c

/-- **Written text.** What a written text is scanned as. -/
def Quoted.written (s : List Char) : Quoted := ⟨s.map Piece.written, none⟩

theorem hexDigit?_hexDigit : ∀ n < 16, hexDigit? (hexDigit n) = some n := by decide

theorem hexUnit?_of_lt {n : Nat} (h : n < 0x20) :
    hexUnit? '0' '0' (hexDigit (n / 16)) (hexDigit (n % 16)) = some n := by
  have hhigh := hexDigit?_hexDigit (n / 16) (by omega)
  have hlow := hexDigit?_hexDigit (n % 16) (by omega)
  have hzero : hexDigit? '0' = some 0 := by decide
  simp only [hexUnit?, hzero, hhigh, hlow, Option.bind_eq_bind, Option.bind_some, Option.pure_def,
    Option.some.injEq]
  omega

/-- A written character is scanned as its piece. -/
theorem scanQuoted_quoteChar_append (c : Char) (s : List Char) :
    scanQuoted (quoteChar c ++ s) =
      ((scanQuoted s).1.cons (Piece.written c), (scanQuoted s).2) := by
  unfold quoteChar
  split
  case h_8 =>
    rename_i hquote hslash hb hf hn hr ht
    split
    · -- a control character: four digits are read back as its number
      rename_i hcontrol
      rw [List.cons_append, List.cons_append]
      simp only [List.cons_append, List.nil_append, scanQuoted, hexUnit?_of_lt hcontrol]
      rw [Piece.written, if_pos ⟨hcontrol, by simp_all⟩]
    · -- any other character stands for itself, and is none that starts an escape
      rename_i hcontrol
      rw [Piece.written, if_neg fun h => hcontrol h.1, List.singleton_append, scanQuoted]
      · rw [if_neg hcontrol]
      all_goals simp_all
  -- quote, backslash and the control characters with a letter of their own
  all_goals rfl

/-- A written text is scanned up to its closing quote. -/
theorem scanQuoted_flatMap_quoteChar (s rest : List Char) :
    scanQuoted (s.flatMap quoteChar ++ '"' :: rest) = (Quoted.written s, rest) := by
  induction s with
  | nil => rfl
  | cons c s ih =>
    rw [List.flatMap_cons, List.append_assoc, scanQuoted_quoteChar_append, ih]
    rfl

/-- A control character stands for itself, whatever follows it. -/
theorem piecesChars_unit {n : Nat} (h : n < 0x20) (fault : Option Fault) (rest : List Piece) :
    piecesChars fault (.unit n :: rest) = (piecesChars fault rest).map (Char.ofNat n :: ·) := by
  -- no control character is a surrogate, so nothing is asked of what follows
  have hhigh : ¬ (0xD800 ≤ n ∧ n < 0xDC00) := by omega
  have hlow : ¬ (0xDC00 ≤ n ∧ n < 0xE000) := by omega
  rcases rest with _ | ⟨_ | _, rest⟩ <;> simp [piecesChars, hhigh, hlow]

/-- **Reading back a text.** What is scanned stands for the text that was written. -/
theorem Quoted.written_chars (s : List Char) : (Quoted.written s).chars = .ok s := by
  show piecesChars none (s.map Piece.written) = .ok s
  induction s with
  | nil => rfl
  | cons c s ih =>
    rw [List.map_cons, Piece.written]
    split
    · rename_i h
      rw [piecesChars_unit h.1, ih, Char.ofNat_toNat]
      rfl
    · rw [piecesChars, ih]
      rfl

/-! ## Numerals -/

/-- **End of a numeral.** The text does not go on with digits, places or a power. -/
def EndsNumber (rest : List Char) : Prop :=
  ∀ c ∈ rest.head?, ¬ c.isDigit ∧ c ≠ '.' ∧ c ≠ 'e' ∧ c ≠ 'E'

theorem scanPlaces_of_endsNumber {rest : List Char} (h : EndsNumber rest) (text : List Char) :
    scanPlaces text rest = (.number text, rest) := by
  cases rest with
  | nil => rfl
  | cons c rest =>
    obtain ⟨-, hpoint, he, hE⟩ := h c rfl
    unfold scanPlaces
    split
    · rename_i heq
      exact absurd (List.cons.inj heq).1 hpoint
    · simp [scanExponent, he, hE]

theorem scanWhole_of_digits {d : Char} {ds rest : List Char} (hd : d.isDigit)
    (hds : ∀ c ∈ ds, c.isDigit) (hzero : d = '0' → ds = []) (hrest : EndsNumber rest)
    (sign : List Char) :
    scanWhole sign d (ds ++ rest) = (.number (sign ++ d :: ds), rest) := by
  -- the digits end where the numeral does
  have hdigits : (ds ++ rest).takeWhile Char.isDigit = ds ∧
      (ds ++ rest).dropWhile Char.isDigit = rest := by
    rw [List.takeWhile_append_of_pos hds, List.dropWhile_append_of_pos hds]
    cases rest with
    | nil => exact ⟨List.append_nil ds, rfl⟩
    | cons c rest =>
      have hc := (hrest c rfl).1
      rw [List.takeWhile_cons_of_neg hc, List.dropWhile_cons_of_neg hc]
      exact ⟨List.append_nil ds, rfl⟩
  unfold scanWhole
  rw [hd, if_neg (by decide)]
  split
  · -- a leading zero is the only digit, and no digit follows it
    rename_i heq
    subst heq
    obtain rfl := hzero rfl
    cases rest with
    | nil => rfl
    | cons c rest =>
      rw [List.nil_append]
      simp only [(hrest c rfl).1]
      exact scanPlaces_of_endsNumber hrest _
  · rw [hdigits.1, hdigits.2, scanPlaces_of_endsNumber hrest]

theorem scanToken_of_isDigit {d : Char} (hd : d.isDigit) (s : List Char) :
    scanToken d s = scanWhole [] d s := by
  unfold scanToken
  split <;> first | rfl | exact absurd hd (by decide)

/-- A whole number is scanned up to its last digit. -/
theorem exists_scanToken_signed (n : Int) {rest : List Char} (hrest : EndsNumber rest) :
    ∃ c s, signed n ++ rest = c :: s ∧ isSpace c = false ∧
      scanToken c s = (.number (signed n), rest) := by
  obtain ⟨d, ds, hdigits, hd, hds, hzero⟩ := digits_eq_cons n.natAbs
  rw [signed, hdigits]
  split
  · -- behind a minus sign
    refine ⟨'-', d :: (ds ++ rest), rfl, rfl, ?_⟩
    exact scanWhole_of_digits hd hds hzero hrest ['-']
  · -- the first digit is no blank and no mark
    refine ⟨d, ds ++ rest, rfl, ?_, ?_⟩
    · refine Bool.eq_false_iff.mpr fun hspace => ?_
      simp only [isSpace, Bool.or_eq_true, beq_iff_eq] at hspace
      rcases hspace with ((rfl | rfl) | rfl) | rfl <;> exact absurd hd (by decide)
    · rw [scanToken_of_isDigit hd]
      exact scanWhole_of_digits hd hds hzero hrest []

/-! ## Values -/

mutual

/-- **Whole values.** All numbers of the value are whole. -/
def isWhole : Json → Bool
  | .number (.integer _) => true
  | .number (.double _) => false
  | .array items => areWhole items
  | .object members => haveWhole members
  | _ => true

/-- All numbers of the items are whole. -/
def areWhole : List Json → Bool
  | [] => true
  | item :: rest => isWhole item && areWhole rest

/-- All numbers of the members are whole. -/
def haveWhole : List (String × Json) → Bool
  | [] => true
  | (_, value) :: rest => isWhole value && haveWhole rest

end

theorem haveWhole_iff {members : List (String × Json)} :
    haveWhole members ↔ ∀ member ∈ members, isWhole member.2 := by
  induction members with
  | nil => simp [haveWhole]
  | cons member rest ih => simp [haveWhole, ih]

mutual

/-- **Tokens of a value.** -/
def tokensOf : Json → List Token
  | .null => [.null]
  | .bool b => [.bool b]
  | .number n => [.number n.chars]
  | .string s => [.string (.written s.toList)]
  | .array [] => [.openArray, .closeArray]
  | .array (item :: rest) => .openArray :: tokensOf item ++ itemTokens rest
  | .object [] => [.openObject, .closeObject]
  | .object ((name, value) :: rest) =>
    .openObject :: .string (.written name.toList) :: .colon :: tokensOf value ++
      memberTokens rest

/-- The tokens of further items and the closing bracket. -/
def itemTokens : List Json → List Token
  | [] => [.closeArray]
  | item :: rest => .comma :: tokensOf item ++ itemTokens rest

/-- The tokens of further members and the closing bracket. -/
def memberTokens : List (String × Json) → List Token
  | [] => [.closeObject]
  | (name, value) :: rest =>
    .comma :: .string (.written name.toList) :: .colon :: tokensOf value ++ memberTokens rest

end

theorem tokens_cons {c : Char} {s rest : List Char} {token : Token} (hc : isSpace c = false)
    (hscan : scanToken c s = (token, rest)) (hlast : token.isLast = false) :
    tokens (c :: s) = token :: tokens rest := by
  rw [tokens, hc, hscan]
  simp [hlast]

/-- The characters that are tokens of their own. -/
def marks : List (Char × Token) :=
  [('[', .openArray), (']', .closeArray), ('\x7b', .openObject), ('\x7d', .closeObject),
    (',', .comma), (':', .colon)]

theorem tokens_mark (c : Char) (token : Token) (s : List Char)
    (h : (c, token) ∈ marks := by decide) : tokens (c :: s) = token :: tokens s := by
  simp only [marks, List.mem_cons, Prod.mk.injEq, List.not_mem_nil, or_false] at h
  rcases h with ⟨rfl, rfl⟩ | ⟨rfl, rfl⟩ | ⟨rfl, rfl⟩ | ⟨rfl, rfl⟩ | ⟨rfl, rfl⟩ | ⟨rfl, rfl⟩ <;>
    exact tokens_cons rfl rfl rfl

/-- A written text is one token. -/
theorem tokens_quoted_append (s rest : List Char) :
    tokens (quoted s ++ rest) = .string (.written s) :: tokens rest := by
  rw [quoted, List.cons_append, List.cons_append, List.append_assoc]
  refine tokens_cons rfl ?_ rfl
  rw [scanToken, List.singleton_append, scanQuoted_flatMap_quoteChar]

theorem endsNumber_itemsChars (items : List Json) (rest : List Char) :
    EndsNumber (itemsChars items ++ rest) := by
  cases items <;> rintro c ⟨⟩ <;> decide

theorem endsNumber_membersChars (members : List (String × Json)) (rest : List Char) :
    EndsNumber (membersChars members ++ rest) := by
  cases members <;> rintro c ⟨⟩ <;> decide

mutual

/-- **Tokens of a written value.** They are the value's own, and then those of the text after
it. -/
theorem tokens_chars_append : ∀ (j : Json), isWhole j → ∀ rest, EndsNumber rest →
    tokens (j.chars ++ rest) = tokensOf j ++ tokens rest
  | .null, _, _, _ => tokens_cons rfl rfl rfl
  | .bool true, _, _, _ => tokens_cons rfl rfl rfl
  | .bool false, _, _, _ => tokens_cons rfl rfl rfl
  | .number (.integer n), _, rest, hrest => by
    -- the only value whose end depends on what follows it
    obtain ⟨c, s, hchars, hspace, hscan⟩ := exists_scanToken_signed n hrest
    rw [chars, Number.chars, hchars, tokens_cons hspace hscan rfl]
    rfl
  | .string s, _, rest, _ => by
    rw [chars, tokens_quoted_append]
    rfl
  | .array [], _, rest, _ => by
    simp only [chars, tokensOf, List.cons_append, List.nil_append, tokens_mark '[' .openArray,
      tokens_mark ']' .closeArray]
  | .array (item :: items), hwhole, rest, _ => by
    -- the first item is followed by a comma or the closing bracket
    obtain ⟨hitem, hitems⟩ := Bool.and_eq_true_iff.mp hwhole
    have hfirst := tokens_chars_append item hitem _ (endsNumber_itemsChars items rest)
    have hrest := tokens_itemsChars_append items hitems rest
    simp only [chars, tokensOf, List.cons_append, List.append_assoc, tokens_mark '[' .openArray,
      hfirst, hrest]
  | .object [], _, rest, _ => by
    simp only [chars, tokensOf, List.cons_append, List.nil_append,
      tokens_mark '\x7b' .openObject, tokens_mark '\x7d' .closeObject]
  | .object ((name, value) :: members), hwhole, rest, _ => by
    obtain ⟨hvalue, hmembers⟩ := Bool.and_eq_true_iff.mp hwhole
    have hfirst := tokens_chars_append value hvalue _ (endsNumber_membersChars members rest)
    have hrest := tokens_membersChars_append members hmembers rest
    simp only [chars, tokensOf, List.cons_append, List.append_assoc,
      tokens_mark '\x7b' .openObject, tokens_mark ':' .colon, tokens_quoted_append, hfirst, hrest]

/-- The tokens of further written items. -/
theorem tokens_itemsChars_append : ∀ (items : List Json), areWhole items → ∀ rest,
    tokens (itemsChars items ++ rest) = itemTokens items ++ tokens rest
  | [], _, rest => tokens_mark ']' .closeArray rest
  | item :: items, hwhole, rest => by
    obtain ⟨hitem, hitems⟩ := Bool.and_eq_true_iff.mp hwhole
    have hfirst := tokens_chars_append item hitem _ (endsNumber_itemsChars items rest)
    have hrest := tokens_itemsChars_append items hitems rest
    simp only [itemsChars, itemTokens, List.cons_append, List.append_assoc,
      tokens_mark ',' .comma, hfirst, hrest]

/-- The tokens of further written members. -/
theorem tokens_membersChars_append : ∀ (members : List (String × Json)), haveWhole members →
    ∀ rest, tokens (membersChars members ++ rest) = memberTokens members ++ tokens rest
  | [], _, rest => tokens_mark '\x7d' .closeObject rest
  | (name, value) :: members, hwhole, rest => by
    obtain ⟨hvalue, hmembers⟩ := Bool.and_eq_true_iff.mp hwhole
    have hfirst := tokens_chars_append value hvalue _ (endsNumber_membersChars members rest)
    have hrest := tokens_membersChars_append members hmembers rest
    simp only [membersChars, memberTokens, List.cons_append, List.append_assoc,
      tokens_mark ',' .comma, tokens_mark ':' .colon, tokens_quoted_append, hfirst, hrest]

end

/-- The tokens of a written value alone. -/
theorem tokens_text {j : Json} (h : isWhole j) : tokens j.text.toList = tokensOf j := by
  have hchars := tokens_chars_append j h [] fun c hc => nomatch hc
  have hnil : tokens [] = [] := by rw [tokens]
  rwa [hnil, List.append_nil, List.append_nil, ← String.toList_ofList (l := j.chars)] at hchars

/-! ## Cutting step by step -/

/-- The tokens of a text that is cut in at most so many steps. -/
def tokensWithin : Nat → List Char → List Token
  | 0, _ | _, [] => []
  | steps + 1, c :: s =>
    if isSpace c then tokensWithin steps s
    else
      let scanned := scanToken c s
      if scanned.1.isLast then [scanned.1] else scanned.1 :: tokensWithin steps scanned.2

/-- A text is cut in no more steps than it has characters. -/
theorem tokens_eq_tokensWithin (steps : Nat) {s : List Char} (h : s.length ≤ steps) :
    tokens s = tokensWithin steps s := by
  -- Induction on the steps: each one uses up a character at least.
  induction steps generalizing s with
  | zero =>
    obtain rfl := List.length_eq_zero_iff.mp (Nat.le_zero.mp h)
    rw [tokens, tokensWithin]
  | succ steps ih =>
    cases s with
    | nil =>
      rw [tokens, tokensWithin]
      exact Nat.succ_ne_zero steps
    | cons c s =>
      have hs : s.length ≤ steps := Nat.le_of_succ_le_succ h
      have hrest : (scanToken c s).2.length ≤ steps := Nat.le_trans (scanToken_length_le c s) hs
      simp only [tokens, tokensWithin, ih hs, ih hrest]

end DataGrid.Json
