import LooseRecords.Proofs.Shorthand
import LooseRecords.Proofs.Text.Slice
import LooseRecords.Shorthand.InPlace

/-!
# Slices of shorthands

Reading a shorthand in place always comes to a result, and this is what reading its characters gives
(`Shorthand.readInPlace?_eq`): no slice that is taken on the way ends outside the text or inside a
character.  The reason is the same at every step.  The offsets are those of characters below 128,
which take one byte each: the sign that was found, the equality sign after it, and the quotes.
-/

namespace LooseRecords

/-- A text given by its characters is read as they are. -/
theorem Json.parse_ofList (cs : List Char) :
    Json.parse (String.ofList cs) = Json.ofSymbols (cs.map .char) := by
  rw [Json.parse, Text.Symbol.ofText, String.toList_ofList]

namespace Shorthand

open Text (slice? trimChars)

variable {cs field operand : List Char} {sign : Char}

/-! ### The sign -/

theorem isSign_iff {c : Char} : isSign c = true ↔ c = '=' ∨ c = '>' ∨ c = '<' ∨ c = '!' := by
  simp [isSign, or_assoc]

/-- Characters are split into those before the first sign, this sign, and those after it. -/
theorem splitAtSign?_eq_some_iff :
    splitAtSign? cs = some ⟨field, sign, operand⟩ ↔
      cs = field ++ sign :: operand ∧ (∀ c ∈ field, isSign c = false) ∧ isSign sign = true := by
  constructor
  · intro h
    rw [splitAtSign?] at h
    split at h
    · cases h
    next c rest hrest =>
      cases h
      have hfirst := List.head?_dropWhile_not (!isSign ·) cs
      rw [hrest] at hfirst
      refine ⟨by rw [← hrest, List.takeWhile_append_dropWhile], fun c hc => ?_,
        by simpa using hfirst⟩
      simpa using List.mem_takeWhile_imp hc
  · rintro ⟨rfl, hfield, hsign⟩
    exact splitAtSign?_append hfield hsign

/-- There is nothing to split where there is no sign. -/
theorem splitAtSign?_eq_none_iff : splitAtSign? cs = none ↔ ∀ c ∈ cs, isSign c = false := by
  have hnil : splitAtSign? cs = none ↔ cs.dropWhile (!isSign ·) = [] := by
    rw [splitAtSign?]
    split <;> simp_all
  rw [hnil, List.dropWhile_eq_nil_iff]
  simp

/-- No sign is found where there is none. -/
theorem find?_isSign_eq_none (h : ∀ c ∈ cs, isSign c = false) :
    (String.ofList cs).find? isSign = none := by
  rw [Option.eq_none_iff_forall_not_mem]
  intro position hposition
  obtain ⟨before, c, after, hsplits, hsign, -⟩ :=
    String.find?_bool_eq_some_iff_splits.1 hposition
  have hmem : c ∈ cs := by
    have hchars := congrArg String.toList hsplits.eq_append
    rw [String.toList_ofList] at hchars
    simp [hchars]
  rw [h c hmem] at hsign
  cases hsign

/-- The first sign is found at the offset where the characters before it end. -/
theorem exists_find?_isSign (hfield : ∀ c ∈ field, isSign c = false) (hsign : isSign sign = true)
    (operand : List Char) :
    ∃ position, (String.ofList (field ++ sign :: operand)).find? isSign = some position ∧
      position.offset.byteIdx = (String.ofList field).utf8ByteSize := by
  have happend : String.ofList (field ++ sign :: operand) =
      String.ofList field ++ (String.singleton sign ++ String.ofList operand) := by
    rw [← String.toList_inj]
    simp
  rw [happend]
  have hvalid := Text.isValid_append (String.ofList field)
    (String.singleton sign ++ String.ofList operand)
  refine ⟨String.pos _ ⟨_⟩ hvalid, ?_, rfl⟩
  rw [String.find?_bool_eq_some_iff_splits]
  exact ⟨String.ofList field, sign, String.ofList operand, ⟨rfl, rfl⟩, hsign,
    by simpa using hfield⟩

/-- The signs of two bytes are those that are not supported. -/
theorem ofList_pair_mem_iff {c d : Char} (hc : isSign c = true) :
    String.ofList [c, d] ∈ ["!=", ">=", "<="] ↔ c ≠ '=' ∧ d = '=' := by
  have hinj (c' d' : Char) :
      String.ofList [c, d] = String.ofList [c', d'] ↔ c = c' ∧ d = d' := by
    rw [String.ofList_inj]
    simp
  have hlist : ["!=", ">=", "<="] =
      [String.ofList ['!', '='], String.ofList ['>', '='], String.ofList ['<', '=']] := rfl
  rw [hlist]
  simp only [List.mem_cons, List.not_mem_nil, or_false, hinj]
  rcases isSign_iff.1 hc with rfl | rfl | rfl | rfl <;> simp

/-- A sign takes one byte. -/
theorem utf8ByteSize_sign (hsign : isSign sign = true) :
    (String.ofList [sign]).utf8ByteSize = 1 := by
  rcases isSign_iff.1 hsign with rfl | rfl | rfl | rfl <;> rfl

/-- A sign and an equality sign take two bytes. -/
theorem utf8ByteSize_sign_pair (hsign : isSign sign = true) :
    (String.ofList [sign, '=']).utf8ByteSize = 2 := by
  rcases isSign_iff.1 hsign with rfl | rfl | rfl | rfl <;> rfl

/-- The sign with the equality sign after it is taken where such a sign is not supported, and
otherwise the sign by itself. -/
theorem signInPlace?_ofList (hsign : isSign sign = true) :
    signInPlace? (String.ofList (sign :: operand)) =
      some (String.ofList
        (if sign ≠ '=' ∧ operand.head? = some '=' then [sign, '='] else [sign])) := by
  have hone : slice? (String.ofList (sign :: operand)) 0 1 = some (String.ofList [sign]) := by
    rw [← List.singleton_append, String.ofList_append, ← utf8ByteSize_sign hsign]
    exact Text.slice?_append_left _ _
  split_ifs with hpair
  · obtain ⟨rest, rfl⟩ := List.head?_eq_some_iff.1 hpair.2
    have htwo : slice? (String.ofList (sign :: '=' :: rest)) 0 2 =
        some (String.ofList [sign, '=']) := by
      rw [← utf8ByteSize_sign_pair hsign]
      change slice? (String.ofList ([sign, '='] ++ rest)) _ _ = _
      rw [String.ofList_append]
      exact Text.slice?_append_left _ _
    rw [signInPlace?, htwo]
    exact if_pos ((ofList_pair_mem_iff hsign).2 ⟨hpair.1, rfl⟩)
  · -- The first two bytes, if they are a slice at all, are no such sign.
    rw [signInPlace?]
    split
    next pair htwo =>
      rw [if_neg, hone]
      intro hmem
      obtain ⟨before, after, happend, hbefore, -⟩ := Text.slice?_eq_some_iff.1 htwo
      obtain ⟨c, d, rfl⟩ : ∃ c d, pair = String.ofList [c, d] := by
        simp only [List.mem_cons, List.not_mem_nil, or_false] at hmem
        rcases hmem with rfl | rfl | rfl <;> exact ⟨_, _, rfl⟩
      have hempty : before = "" := String.utf8ByteSize_eq_zero_iff.1 hbefore
      have hchars := congrArg String.toList happend
      rw [hempty, String.empty_append, String.toList_append, String.toList_ofList,
        String.toList_ofList] at hchars
      obtain ⟨rfl, rfl⟩ := List.cons.inj hchars
      obtain ⟨hne, rfl⟩ := (ofList_pair_mem_iff hsign).1 hmem
      exact hpair ⟨hne, rfl⟩
    next => exact hone

/-! ### Quotes -/

/-- The marks that the bytes are compared with. -/
theorem quote_bytes {b b' : UInt8} :
    b = doubleQuote ∧ b' = doubleQuote ∨ b = singleQuote ∧ b' = singleQuote ↔
      ∃ quote : Char, (quote = '"' ∨ quote = '\'') ∧
        b = UInt8.ofNat quote.toNat ∧ b' = UInt8.ofNat quote.toNat := by
  constructor
  · rintro (⟨rfl, rfl⟩ | ⟨rfl, rfl⟩)
    · exact ⟨'"', .inl rfl, rfl, rfl⟩
    · exact ⟨'\'', .inr rfl, rfl, rfl⟩
  · rintro ⟨quote, rfl | rfl, rfl, rfl⟩
    · exact .inl ⟨rfl, rfl⟩
    · exact .inr ⟨rfl, rfl⟩

/-- A quote takes one byte. -/
theorem utf8ByteSize_quote {quote : Char} (hquote : quote = '"' ∨ quote = '\'') :
    (String.ofList [quote]).utf8ByteSize = 1 := by
  rcases hquote with rfl | rfl <;> rfl

/-- There is something to unquote exactly between two quotes of the same kind. -/
theorem unquote?_eq_some_iff {inner : List Char} :
    unquote? cs = some inner ↔
      ∃ quote, (quote = '"' ∨ quote = '\'') ∧ cs = quote :: (inner ++ [quote]) := by
  cases cs with
  | nil => simp [unquote?]
  | cons c rest =>
    rw [unquote?]
    constructor
    · intro h
      split at h
      next hquote =>
        obtain ⟨rfl⟩ := h
        obtain ⟨front, rfl⟩ := List.getLast?_eq_some_iff.1 hquote.2
        exact ⟨c, hquote.1, by rw [List.dropLast_concat]⟩
      next => cases h
    · rintro ⟨quote, hquote, hcons⟩
      obtain ⟨rfl, rfl⟩ := List.cons.inj hcons
      rw [if_pos ⟨hquote, List.getLast?_concat⟩, List.dropLast_concat]

/-- There is nothing to unquote in any other text. -/
theorem unquote?_eq_none_iff_forall :
    unquote? cs = none ↔
      ∀ inner quote, quote = '"' ∨ quote = '\'' → cs ≠ quote :: (inner ++ [quote]) := by
  simp only [Option.eq_none_iff_forall_ne_some, ne_eq, unquote?_eq_some_iff, not_exists, not_and]

/-- A text of two bytes or more has a quote as its first and its last byte exactly if its first and
its last character are this quote, and two different ones. -/
theorem quoted_iff {quote : Char} (hquote : quote = '"' ∨ quote = '\'')
    (hsize : 2 ≤ (String.ofList cs).utf8ByteSize) :
    Text.byteAt? (String.ofList cs) 0 = some (UInt8.ofNat quote.toNat) ∧
        Text.byteAt? (String.ofList cs) ((String.ofList cs).utf8ByteSize - 1) =
          some (UInt8.ofNat quote.toNat) ↔
      ∃ inner, cs = quote :: (inner ++ [quote]) := by
  have hlow : quote.toNat < 128 := by rcases hquote with rfl | rfl <;> decide
  cases cs with
  | nil => simp at hsize
  | cons c rest =>
    rw [Text.byteAt?_zero_eq_some_iff hlow]
    rcases List.eq_nil_or_concat rest with rfl | ⟨inner, d, rfl⟩
    · -- A quote by itself is too short.
      constructor
      · rintro ⟨rfl, -⟩
        have hone := utf8ByteSize_quote hquote
        omega
      · rintro ⟨inner, hinner⟩
        simp at hinner
    · rw [List.concat_eq_append, ← List.cons_append, Text.byteAt?_last_eq_some_iff hlow]
      constructor
      · rintro ⟨rfl, rfl⟩
        exact ⟨inner, rfl⟩
      · rintro ⟨inner', hinner⟩
        obtain ⟨rfl, hrest⟩ := List.cons.inj hinner
        exact ⟨rfl, (List.append_inj' hrest rfl).2 |> List.singleton_inj.1⟩

/-- Quotes take a byte each. -/
theorem utf8ByteSize_quoted {quote : Char} (hquote : quote = '"' ∨ quote = '\'')
    (inner : List Char) : (String.ofList (quote :: (inner ++ [quote]))).utf8ByteSize =
      (String.ofList inner).utf8ByteSize + 2 := by
  have hone := utf8ByteSize_quote hquote
  rw [← List.singleton_append, String.ofList_append, String.ofList_append,
    String.utf8ByteSize_append, String.utf8ByteSize_append, hone]
  omega

/-- What stands between the first and the last byte of a quoted text is a slice of it. -/
theorem slice?_quoted {quote : Char} (hquote : quote = '"' ∨ quote = '\'') (inner : List Char) :
    slice? (String.ofList (quote :: (inner ++ [quote]))) 1
        ((String.ofList (quote :: (inner ++ [quote]))).utf8ByteSize - 1) =
      some (String.ofList inner) := by
  have hone := utf8ByteSize_quote hquote
  have happend : String.ofList (quote :: (inner ++ [quote])) =
      String.ofList [quote] ++ String.ofList inner ++ String.ofList [quote] := by
    rw [← String.ofList_append, ← String.ofList_append]
    rfl
  refine Text.slice?_eq_some_iff.2 ⟨_, _, happend, hone, ?_⟩
  rw [utf8ByteSize_quoted hquote, hone]
  omega

/-- Quotes are recognised by their bytes as they are by characters. -/
theorem unquoteInPlace?_ofList :
    unquoteInPlace? (String.ofList cs) = some ((unquote? cs).map String.ofList) := by
  rw [unquoteInPlace?]
  split_ifs with hsize
  · obtain ⟨first, hfirst⟩ : ∃ b, Text.byteAt? (String.ofList cs) 0 = some b :=
      Text.exists_byteAt? (by omega)
    obtain ⟨last, hlast⟩ : ∃ b, Text.byteAt? (String.ofList cs)
        ((String.ofList cs).utf8ByteSize - 1) = some b :=
      Text.exists_byteAt? (by omega)
    simp only [hfirst, hlast, Option.bind_eq_bind, Option.bind_some]
    split_ifs with hquotes
    · obtain ⟨quote, hquote, rfl, rfl⟩ := quote_bytes.1 hquotes
      obtain ⟨inner, rfl⟩ := (quoted_iff hquote hsize).1 ⟨hfirst, hlast⟩
      rw [slice?_quoted hquote, unquote?_eq_some_iff.2 ⟨quote, hquote, rfl⟩]
      rfl
    · have hnone : unquote? cs = none := by
        rw [unquote?_eq_none_iff_forall]
        intro inner quote hquote hcs
        obtain ⟨hfirst', hlast'⟩ := (quoted_iff hquote hsize).2 ⟨inner, hcs⟩
        rw [hfirst] at hfirst'
        rw [hlast] at hlast'
        exact hquotes (quote_bytes.2
          ⟨quote, hquote, Option.some.inj hfirst', Option.some.inj hlast'⟩)
      rw [hnone]
      rfl
  · have hnone : unquote? cs = none := by
      rw [unquote?_eq_none_iff_forall]
      rintro inner quote hquote rfl
      exact hsize (utf8ByteSize_quoted hquote inner ▸ Nat.le_add_left 2 _)
    rw [hnone]
    rfl

/-- The operand in place is that of the characters. -/
theorem operandInPlace?_ofList : operandInPlace? (String.ofList cs) = some (operandOf cs) := by
  rw [operandInPlace?, unquoteInPlace?_ofList, operandOf, Json.parse_ofList]
  cases unquote? cs with
  | some inner => rfl
  | none =>
    cases Json.ofSymbols (cs.map .char) with
    | error fault => rfl
    | ok value => cases value <;> rfl

/-! ### Shorthands -/

/-- The operator of a sign, looked up as a word or as a character. -/
theorem operator_ofList (hsign : isSign sign = true) :
    operator (String.ofList [sign]) =
      match operatorOfSign? sign with
      | some op => .ok op
      | none => .error (.unknownOperator (String.ofList [sign])) := by
  rcases isSign_iff.1 hsign with rfl | rfl | rfl | rfl <;> decide

/-- Trimming leaves no text where it leaves no characters. -/
theorem trim_ofList_eq_empty_iff : Text.trim (String.ofList cs) = "" ↔ trimChars cs = [] := by
  rw [Text.trim, String.toList_ofList, String.ofList_eq_empty_iff]

/-- Where the sign has been found, all slices exist, and the parts are those around it. -/
theorem readAtInPlace?_ofList (hsign : isSign sign = true)
    (hfield : ∀ c ∈ field, isSign c = false) :
    readAtInPlace? (String.ofList (field ++ sign :: operand)) (String.ofList field).utf8ByteSize =
      some (readTrimmed (field ++ sign :: operand)) := by
  have hrest : slice? (String.ofList (field ++ sign :: operand)) (String.ofList field).utf8ByteSize
      (String.ofList (field ++ sign :: operand)).utf8ByteSize =
        some (String.ofList (sign :: operand)) := by
    rw [String.ofList_append]
    exact Text.slice?_append_right _ _
  have hleft : slice? (String.ofList (field ++ sign :: operand)) 0
      (String.ofList field).utf8ByteSize = some (String.ofList field) := by
    rw [String.ofList_append]
    exact Text.slice?_append_left _ _
  have hright : slice? (String.ofList (sign :: operand)) (String.ofList [sign]).utf8ByteSize
      (String.ofList (sign :: operand)).utf8ByteSize = some (String.ofList operand) := by
    rw [← List.singleton_append, String.ofList_append]
    exact Text.slice?_append_right _ _
  have hne : field ++ sign :: operand ≠ [] := by simp
  rw [readAtInPlace?, hrest, Option.bind_eq_bind, Option.bind_some, signInPlace?_ofList hsign,
    Option.bind_eq_bind, Option.bind_some, readTrimmed, if_neg hne,
    splitAtSign?_append hfield hsign]
  dsimp only
  by_cases hpair : sign ≠ '=' ∧ operand.head? = some '='
  · rw [if_pos hpair, if_pos hpair, if_pos (utf8ByteSize_sign_pair hsign)]
  · have hone : (String.ofList [sign]).utf8ByteSize ≠ 2 := by
      rw [utf8ByteSize_sign hsign]
      decide
    rw [if_neg hpair, if_neg hpair, if_neg hone, operator_ofList hsign]
    cases operatorOfSign? sign with
    | none => rfl
    | some op =>
      dsimp only
      rw [hleft, Option.bind_some, hright, Option.bind_some]
      by_cases hblank : trimChars field = []
      · rw [if_pos hblank, if_pos (trim_ofList_eq_empty_iff.2 hblank)]
      · rw [if_neg hblank, if_neg (hblank ∘ trim_ofList_eq_empty_iff.1), Text.trim, Text.trim,
          String.toList_ofList, String.toList_ofList, operandInPlace?_ofList]
        rfl

/-- Reading a shorthand in place comes to a result for every text, and to the result of reading its
characters. -/
theorem readInPlace?_eq (s : String) : readInPlace? s = some (read s) := by
  have hread : read s = readTrimmed (trimChars s.toList) := rfl
  have htrim : Text.trim s = String.ofList (trimChars s.toList) := rfl
  rw [readInPlace?, hread, htrim]
  generalize trimChars s.toList = cs
  by_cases hnil : cs = []
  · subst hnil
    rfl
  · have hne : String.ofList cs ≠ "" := fun h => hnil (String.ofList_eq_empty_iff.1 h)
    rw [if_neg hne]
    cases hsplit : splitAtSign? cs with
    | none =>
      rw [find?_isSign_eq_none (splitAtSign?_eq_none_iff.1 hsplit), readTrimmed, if_neg hnil,
        hsplit]
    | some parts =>
      obtain ⟨field, sign, operand⟩ := parts
      obtain ⟨rfl, hfield, hsign⟩ := splitAtSign?_eq_some_iff.1 hsplit
      obtain ⟨position, hfind, hoffset⟩ := exists_find?_isSign hfield hsign operand
      rw [hfind]
      dsimp only
      rw [hoffset]
      exact readAtInPlace?_ofList hsign hfield

end Shorthand
end LooseRecords
