import LooseRecords.Proofs.Shorthand.InPlace

/-!
# The grammar of shorthands

A trimmed text is a shorthand if it has a sign, if the first of its signs is one that is supported,
and if what stands before this sign is not blank (`Shorthand.Form`).  What follows it may be
anything, and denotes an operand in one of three ways (`Shorthand.Denotes`).  The reader accepts
these texts and no others, and reads them so (`Shorthand.read_eq_ok_iff`).
-/

namespace LooseRecords

/-- Null, a truth value or a number: what is written in JSON without quotes or brackets. -/
def Json.Bare : Json → Prop
  | .null | .bool _ | .number _ => True
  | .string _ | .array _ | .object _ => False

namespace Shorthand

open Text (trimChars isBlank)

variable {cs field operand : List Char} {sign : Char}

/-- A trimmed text comes apart at its first sign, and is a shorthand. -/
structure Form (cs field : List Char) (sign : Char) (operand : List Char) : Prop where
  /-- The parts, one after the other. -/
  parts : cs = field ++ sign :: operand
  /-- There is no sign before the sign. -/
  first : ∀ c ∈ field, isSign c = false
  sign_isSign : isSign sign = true
  /-- No exclamation mark stands for an operator. -/
  supported : sign ≠ '!'
  /-- The sign is not the start of a longer one. -/
  single : sign = '>' ∨ sign = '<' → operand.head? ≠ some '='
  /-- The field has a name. -/
  named : ¬∀ c ∈ field, isBlank c = true

/-- Between two quotes of the same kind there are characters, or nothing. -/
def Quoted (cs : List Char) : Prop :=
  ∃ quote inner, (quote = '"' ∨ quote = '\'') ∧ cs = quote :: (inner ++ [quote])

/-- What a trimmed operand denotes. -/
inductive Denotes (cs : List Char) : Json → Prop
  /-- Between two quotes of the same kind stands a string. -/
  | quoted {quote : Char} {inner : List Char} (hquote : quote = '"' ∨ quote = '\'')
      (h : cs = quote :: (inner ++ [quote])) : Denotes cs (.string (String.ofList inner))
  /-- What is null, a truth value or a number in JSON is this value. -/
  | bare {value : Json} (hquoted : ¬Quoted cs) (h : Json.parse (String.ofList cs) = .ok value)
      (hbare : value.Bare) : Denotes cs value
  /-- Anything else is a string as it stands. -/
  | text (hquoted : ¬Quoted cs)
      (hbare : ∀ value, Json.parse (String.ofList cs) = .ok value → ¬value.Bare) :
      Denotes cs (.string (String.ofList cs))

/-! ### Operands -/

theorem unquote?_eq_none_iff : unquote? cs = none ↔ ¬Quoted cs := by
  rw [unquote?_eq_none_iff_forall]
  constructor
  · rintro h ⟨quote, inner, hquote, hcs⟩
    exact h inner quote hquote hcs
  · exact fun h inner quote hquote hcs => h ⟨quote, inner, hquote, hcs⟩

/-- A text that starts with another character is not quoted. -/
theorem not_quoted_of_head {c : Char} (hc : ¬(c = '"' ∨ c = '\'')) (rest : List Char) :
    ¬Quoted (c :: rest) := by
  rintro ⟨quote, inner, hquote, h⟩
  obtain ⟨rfl, -⟩ := List.cons.inj h
  exact hc hquote

/-- The reader of operands gives what they denote. -/
theorem denotes_operandOf (cs : List Char) : Denotes cs (operandOf cs) := by
  have hparse := Json.parse_ofList cs
  rw [operandOf]
  cases hunquote : unquote? cs with
  | some inner =>
    obtain ⟨quote, hquote, hcs⟩ := unquote?_eq_some_iff.1 hunquote
    exact .quoted hquote hcs
  | none =>
    have hquoted := unquote?_eq_none_iff.1 hunquote
    dsimp only
    cases hvalue : Json.ofSymbols (cs.map .char) with
    | error fault => exact .text hquoted fun value hok => by rw [hparse, hvalue] at hok; cases hok
    | ok value =>
      have htext (hbare : ¬value.Bare) : Denotes cs (.string (String.ofList cs)) :=
        .text hquoted fun other hother => by
          rw [hparse, hvalue] at hother
          exact Except.ok.inj hother ▸ hbare
      cases value with
      | null | bool b | number n => exact .bare hquoted (hparse.trans hvalue) trivial
      | string s | array items | object entries => exact htext id

/-- An operand denotes one value. -/
theorem Denotes.unique {value other : Json} (h : Denotes cs value) (hother : Denotes cs other) :
    value = other := by
  cases h with
  | quoted hquote hcs =>
    cases hother with
    | quoted hquote' hcs' =>
      obtain ⟨rfl, hrest⟩ := List.cons.inj (hcs.symm.trans hcs')
      rw [List.append_cancel_right hrest]
    | bare hquoted' _ _ | text hquoted' _ => exact absurd ⟨_, _, hquote, hcs⟩ hquoted'
  | bare hquoted hvalue hbare =>
    cases hother with
    | quoted hquote' hcs' => exact absurd ⟨_, _, hquote', hcs'⟩ hquoted
    | bare _ hvalue' _ => exact Except.ok.inj (hvalue.symm.trans hvalue')
    | text _ hbare' => exact absurd hbare (hbare' _ hvalue)
  | text hquoted hbare =>
    cases hother with
    | quoted hquote' hcs' => exact absurd ⟨_, _, hquote', hcs'⟩ hquoted
    | bare _ hvalue' hbare' => exact absurd hbare' (hbare _ hvalue')
    | text _ _ => rfl

/-- The operand of trimmed characters is the value they denote. -/
theorem operandOf_eq_iff {value : Json} : operandOf cs = value ↔ Denotes cs value :=
  ⟨fun h => h ▸ denotes_operandOf cs, fun h => (denotes_operandOf cs).unique h⟩

/-! ### Shorthands -/

/-- The signs that stand for an operator are all but the exclamation mark. -/
theorem operatorOfSign?_eq_some_iff {op : Operator} :
    operatorOfSign? sign = some op ↔ isSign sign = true ∧ sign ≠ '!' ∧ op.sign = sign := by
  constructor
  · intro h
    rw [operatorOfSign?] at h
    split_ifs at h with heq hgt hlt
    all_goals
      obtain rfl := Option.some.inj h
      subst sign
      decide
  · rintro ⟨-, -, rfl⟩
    exact operatorOfSign?_sign op

/-- A text is read as a field, an operator and an operand exactly if it has the form of a shorthand
with these parts. -/
theorem read_eq_ok_iff {text name : String} {request : Request} :
    read text = .ok (name, request) ↔
      ∃ field sign operand, Form (trimChars text.toList) field sign operand ∧
        name = String.ofList (trimChars field) ∧ request.operator.sign = sign ∧
        Denotes (trimChars operand) request.operand := by
  obtain ⟨op, value⟩ := request
  rw [read]
  generalize trimChars text.toList = cs
  constructor
  · intro h
    rw [readTrimmed] at h
    split_ifs at h with hnil
    split at h
    next => cases h
    next field sign operand hsplit =>
      obtain ⟨hparts, hfirst, hsign⟩ := splitAtSign?_eq_some_iff.1 hsplit
      by_cases hpair : sign ≠ '=' ∧ operand.head? = some '='
      · rw [if_pos hpair] at h
        cases h
      rw [if_neg hpair] at h
      split at h
      next => cases h
      next op' hop =>
        obtain ⟨-, hmark, hopsign⟩ := operatorOfSign?_eq_some_iff.1 hop
        split_ifs at h with hblank
        cases h
        refine ⟨field, sign, operand, ⟨hparts, hfirst, hsign, hmark, ?_, ?_⟩, rfl, hopsign,
          denotes_operandOf _⟩
        · rintro (rfl | rfl) hhead <;> exact hpair ⟨by decide, hhead⟩
        · exact fun hall => hblank (Text.trimChars_eq_nil_iff.2 hall)
  · rintro ⟨field, sign, operand, ⟨rfl, hfirst, hsign, hmark, hsingle, hnamed⟩, rfl, hop, hvalue⟩
    have hne : field ++ sign :: operand ≠ [] := by simp
    have hpair : ¬(sign ≠ '=' ∧ operand.head? = some '=') := by
      rintro ⟨heq, hhead⟩
      rcases isSign_iff.1 hsign with rfl | rfl | rfl | rfl
      · exact heq rfl
      · exact hsingle (.inl rfl) hhead
      · exact hsingle (.inr rfl) hhead
      · exact hmark rfl
    have hblank : trimChars field ≠ [] := fun h => hnamed (Text.trimChars_eq_nil_iff.1 h)
    rw [readTrimmed, if_neg hne, splitAtSign?_append hfirst hsign]
    dsimp only
    rw [if_neg hpair, operatorOfSign?_eq_some_iff.2 ⟨hsign, hmark, hop⟩]
    dsimp only
    rw [if_neg hblank, operandOf_eq_iff.2 hvalue]

/-- Trimming adds no sign. -/
theorem isSign_of_mem_trimChars (h : ∀ c ∈ field, isSign c = false) :
    ∀ c ∈ trimChars field, isSign c = false :=
  fun c hc => h c (Text.mem_of_mem_trimChars hc)

/-- Whatever the text, reading it in place takes no slice that is not there, and reads what its
characters are.  It is read successfully exactly if it has the form of a shorthand; the field is
then what stands before the first sign, without the blanks around it and without any sign, the
operator is that of this sign, and the operand is what the trimmed rest denotes. -/
theorem read_grammar (text : String) :
    readInPlace? text = some (read text) ∧
      ((∃ result, read text = .ok result) ↔
        ∃ field sign operand, Form (trimChars text.toList) field sign operand) ∧
      ∀ name request, read text = .ok (name, request) →
        ∃ field sign operand, Form (trimChars text.toList) field sign operand ∧
          name = String.ofList (trimChars field) ∧ (∀ c ∈ name.toList, isSign c = false) ∧
          request.operator.sign = sign ∧ Denotes (trimChars operand) request.operand := by
  refine ⟨readInPlace?_eq text, ⟨?_, ?_⟩, ?_⟩
  · rintro ⟨⟨name, request⟩, hread⟩
    obtain ⟨field, sign, operand, hform, -⟩ := read_eq_ok_iff.1 hread
    exact ⟨field, sign, operand, hform⟩
  · rintro ⟨field, sign, operand, hform⟩
    have hop : ∃ op : Operator, op.sign = sign := by
      rcases isSign_iff.1 hform.sign_isSign with rfl | rfl | rfl | rfl
      · exact ⟨.eq, rfl⟩
      · exact ⟨.gt, rfl⟩
      · exact ⟨.lt, rfl⟩
      · exact absurd rfl hform.supported
    obtain ⟨op, hop⟩ := hop
    exact ⟨(String.ofList (trimChars field), ⟨op, operandOf (trimChars operand)⟩),
      read_eq_ok_iff.2 ⟨field, sign, operand, hform, rfl, hop, denotes_operandOf _⟩⟩
  · intro name request hread
    obtain ⟨field, sign, operand, hform, rfl, hop, hvalue⟩ := read_eq_ok_iff.1 hread
    refine ⟨field, sign, operand, hform, rfl, ?_, hop, hvalue⟩
    rw [String.toList_ofList]
    exact isSign_of_mem_trimChars hform.first

end Shorthand
end LooseRecords
