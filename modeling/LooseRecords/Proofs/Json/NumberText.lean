import LooseRecords.Proofs.Json.Numbers
import LooseRecords.Proofs.Number.Scaled
import LooseRecords.Scalar

/-!
# The texts of JSON numbers

A JSON number is spelled with a minus sign or none, with digits before the point that have no zero in
front, and perhaps with digits after a point and an exponent.  The grammar (`NumberParts.Spells`) says
which characters spell a number and of which parts, without reading them.

There are two readers for it.  The reader of JSON texts accepts these spellings
(`NumberParts.Spells.parse_eq`) and no others (`exists_spells_of_parse`), up to numbers that are too
large.  The reader of texts that denote numbers accepts more, but a spelling it takes apart in the
same way (`NumberParts.Spells.ofChars?`), and no spelling looks like digits of another base.

Both readers see the same decimal, but the second one rounds it at once to the nearest number, and the
first one takes several steps, each of which rounds.  Where these lead to the nearest number as well
(`Number.IsNearest`), both readers agree (`numberOfText?_of_parse`).  So it is with whole numbers that
are kept as they are (`isNearest_of_parse_integer`), and with all numbers of few digits and small
exponents (`isNearest_of_parse`).
-/

namespace LooseRecords
namespace Json

open Text (Symbol)

/-! ### The grammar -/

/-- Whether characters are a run of at least one digit. -/
structure IsDigitRun (cs : List Char) : Prop where
  ne_nil : cs ≠ []
  isDigit : ∀ c ∈ cs, Digits.isDigit c = true

/-- Whether characters may stand before the point: digits, of which the first is a zero only if it is
the only one. -/
structure IsWholePart (cs : List Char) : Prop extends IsDigitRun cs where
  zero_alone : ∀ rest, cs = '0' :: rest → rest = []

/-- The spellings of what stands after the digits before the point. -/
inductive SpellsFraction : Option (List Char) → List Char → Prop
  | none : SpellsFraction none []
  | point {digits : List Char} (h : IsDigitRun digits) :
      SpellsFraction (some digits) ('.' :: digits)

/-- The spellings of the sign of an exponent. -/
inductive SpellsExponentSign : Bool → List Char → Prop
  | none : SpellsExponentSign false []
  | plus : SpellsExponentSign false ['+']
  | minus : SpellsExponentSign true ['-']

/-- The spellings of an exponent. -/
inductive SpellsExponent : Option Int → List Char → Prop
  | none : SpellsExponent none []
  | letter {c : Char} {negative : Bool} {sign digits : List Char} (hc : c = 'e' ∨ c = 'E')
      (hsign : SpellsExponentSign negative sign) (h : IsDigitRun digits) :
      SpellsExponent
        (some (if negative then -(Digits.value digits : Int) else Digits.value digits))
        (c :: (sign ++ digits))

/-- What the text of a number says: the sign, the digits before and after the point, and the
exponent. -/
structure NumberParts where
  negative : Bool
  whole : List Char
  fraction : Option (List Char) := none
  exponent : Option Int := none

namespace NumberParts

/-- The number as a decimal. -/
def decimal (p : NumberParts) : Decimal :=
  .ofParts p.negative p.whole (p.fraction.getD []) (p.exponent.getD 0)

/-- The number as a decimal whose significand is held by a word. -/
def fitted (p : NumberParts) : Decimal :=
  .fitParts p.negative p.whole (p.fraction.getD []) (p.exponent.getD 0)

/-- The number as a JSON value keeps it, unless it is too large. -/
def number (p : NumberParts) : Except Fault Number :=
  Number.ofParts p.negative p.whole p.fraction p.exponent

/-- The characters of the sign. -/
def signChars (p : NumberParts) : List Char :=
  if p.negative then ['-'] else []

/-- The spellings of a number. -/
inductive Spells (p : NumberParts) : List Char → Prop
  | mk {fraction exponent : List Char} (hwhole : IsWholePart p.whole)
      (hfraction : SpellsFraction p.fraction fraction)
      (hexponent : SpellsExponent p.exponent exponent) :
      Spells p (p.signChars ++ (p.whole ++ (fraction ++ exponent)))

/-- Parts that are spelled make up a number. -/
theorem exists_spells (negative : Bool) {whole fs es : List Char} {fraction : Option (List Char)}
    {exponent : Option Int} (hwhole : IsWholePart whole) (hfraction : SpellsFraction fraction fs)
    (hexponent : SpellsExponent exponent es) :
    ∃ p : NumberParts, p.negative = negative ∧ p.whole = whole ∧ p.exponent = exponent ∧
      p.Spells (p.signChars ++ (whole ++ (fs ++ es))) ∧
      p.decimal = .ofParts negative whole (fraction.getD []) (exponent.getD 0) :=
  ⟨⟨negative, whole, fraction, exponent⟩, rfl, rfl, rfl, .mk hwhole hfraction hexponent, rfl⟩

end NumberParts

/-! ### What the characters are -/

theorem SpellsFraction.head_eq {fraction : Option (List Char)} {cs : List Char}
    (h : SpellsFraction fraction cs) : ∀ c ∈ cs.head?, c = '.' := by
  cases h with
  | none => simp
  | point => simp

theorem SpellsExponent.head_eq {exponent : Option Int} {cs : List Char}
    (h : SpellsExponent exponent cs) : ∀ c ∈ cs.head?, c = 'e' ∨ c = 'E' := by
  cases h with
  | none => simp
  | letter hc => simpa using hc

/-- What follows the digits before the point does not start with a digit. -/
theorem isDigit_of_mem_head?_append {fraction : Option (List Char)} {exponent : Option Int}
    {fs es : List Char} (hfraction : SpellsFraction fraction fs)
    (hexponent : SpellsExponent exponent es) :
    ∀ c ∈ (fs ++ es).head?, Digits.isDigit c = false := by
  intro c hc
  cases hfraction with
  | none =>
    rcases hexponent.head_eq c hc with rfl | rfl <;> rfl
  | point =>
    cases hc
    rfl

/-- Whether a character is used to spell numbers. -/
def SpellsNumber (c : Char) : Prop :=
  Digits.isDigit c = true ∨ c ∈ ['-', '+', '.', 'e', 'E']

theorem isBlank_of_spellsNumber {c : Char} (h : SpellsNumber c) : Text.isBlank c = false := by
  rcases h with hdigit | hmem
  · exact Digits.isBlank_of_isDigit hdigit
  · simp only [List.mem_cons, List.not_mem_nil, or_false] at hmem
    rcases hmem with rfl | rfl | rfl | rfl | rfl <;> rfl

/-- No letter that announces another base is used to spell numbers. -/
theorem toLower_ne_of_spellsNumber {c d : Char} (h : SpellsNumber c) (hd : d ∈ ['x', 'o', 'b']) :
    c.toLower ≠ d := by
  simp only [List.mem_cons, List.not_mem_nil, or_false] at hd
  rcases h with hdigit | hmem
  · rw [Digits.toLower_of_isDigit hdigit]
    rcases hd with rfl | rfl | rfl <;> exact Digits.ne_of_isDigit hdigit rfl
  · simp only [List.mem_cons, List.not_mem_nil, or_false] at hmem
    rcases hmem with rfl | rfl | rfl | rfl | rfl <;> rcases hd with rfl | rfl | rfl <;> decide

theorem IsDigitRun.spellsNumber {cs : List Char} (h : IsDigitRun cs) : ∀ c ∈ cs, SpellsNumber c :=
  fun c hc => .inl (h.isDigit c hc)

theorem SpellsFraction.spellsNumber {fraction : Option (List Char)} {cs : List Char}
    (h : SpellsFraction fraction cs) : ∀ c ∈ cs, SpellsNumber c := by
  cases h with
  | none => simp
  | point hdigits => exact List.forall_mem_cons.2 ⟨.inr (by decide), hdigits.spellsNumber⟩

theorem SpellsExponent.spellsNumber {exponent : Option Int} {cs : List Char}
    (h : SpellsExponent exponent cs) : ∀ c ∈ cs, SpellsNumber c := by
  cases h with
  | none => simp
  | letter hc hsign hdigits =>
    refine List.forall_mem_cons.2 ⟨?_, List.forall_mem_append.2 ⟨?_, hdigits.spellsNumber⟩⟩
    · rcases hc with rfl | rfl <;> exact .inr (by decide)
    · cases hsign <;> simp [SpellsNumber]

namespace NumberParts

variable {p : NumberParts} {cs : List Char}

theorem Spells.spellsNumber (h : p.Spells cs) : ∀ c ∈ cs, SpellsNumber c := by
  cases h with
  | mk hwhole hfraction hexponent =>
    have hsign : ∀ c ∈ p.signChars, SpellsNumber c := by
      unfold signChars
      split <;> simp [SpellsNumber]
    simp only [List.forall_mem_append]
    exact ⟨hsign, hwhole.spellsNumber, hfraction.spellsNumber, hexponent.spellsNumber⟩

/-- A spelling of a number is not blank. -/
theorem Spells.isBlankText_ofList (h : p.Spells cs) : Text.isBlankText (String.ofList cs) = false := by
  have hne : cs ≠ [] := by
    cases h with
    | mk hwhole =>
      exact List.append_ne_nil_of_right_ne_nil _ (List.append_ne_nil_of_left_ne_nil hwhole.ne_nil _)
  obtain ⟨c, hc⟩ := List.exists_mem_of_ne_nil cs hne
  refine Text.isBlankText_eq_false_of_mem ?_ (isBlank_of_spellsNumber (h.spellsNumber c hc))
  rwa [String.toList_ofList]

/-- Trimming leaves a spelling of a number as it is. -/
theorem Spells.trimChars (h : p.Spells cs) : Text.trimChars cs = cs :=
  trimChars_eq_self (fun c hc => isBlank_of_spellsNumber (h.spellsNumber c (List.mem_of_mem_head? hc)))
    fun c hc => isBlank_of_spellsNumber (h.spellsNumber c (List.mem_of_getLast? hc))

end NumberParts

/-! ### Reading texts that denote numbers -/

/-- Where a digit comes first there is no sign. -/
theorem splitSign_of_isDigit {c : Char} (h : Digits.isDigit c = true) (rest : List Char) :
    Decimal.splitSign (c :: rest) = (false, c :: rest) := by
  unfold Decimal.splitSign
  split
  · next heq => exact absurd (List.cons.inj heq).1 (Digits.ne_of_isDigit h rfl)
  · next heq => exact absurd (List.cons.inj heq).1 (Digits.ne_of_isDigit h rfl)
  · rfl

theorem SpellsExponent.exponentOfChars? {exponent : Option Int} {cs : List Char}
    (h : SpellsExponent exponent cs) : Decimal.exponentOfChars? cs = some (exponent.getD 0) := by
  cases h with
  | none => rfl
  | @letter c negative sign digits hc hsign hdigits =>
    have hall : digits.all Digits.isDigit = true := List.all_eq_true.2 hdigits.isDigit
    have hsplit : Decimal.splitSign (sign ++ digits) = (negative, digits) := by
      cases hsign with
      | plus => rfl
      | minus => rfl
      | none =>
        obtain ⟨d, rest, rfl⟩ := List.exists_cons_of_ne_nil hdigits.ne_nil
        exact splitSign_of_isDigit (hdigits.isDigit d List.mem_cons_self) rest
    rw [Decimal.exponentOfChars?, if_pos hc, hsplit]
    dsimp only
    rw [if_pos ⟨hdigits.ne_nil, hall⟩, Option.getD_some]

/-- A spelling is taken apart as a decimal. -/
theorem NumberParts.Spells.ofChars? {p : NumberParts} {cs : List Char} (h : p.Spells cs) :
    Decimal.ofChars? cs = some p.decimal := by
  cases h with
  | @mk fs es hwhole hfraction hexponent =>
    have hsign : Decimal.splitSign (p.signChars ++ (p.whole ++ (fs ++ es))) =
        (p.negative, p.whole ++ (fs ++ es)) := by
      unfold NumberParts.signChars
      split
      · next hnegative =>
        rw [hnegative]
        rfl
      · next hnegative =>
        rw [Bool.not_eq_true] at hnegative
        obtain ⟨d, rest, hwholeEq⟩ := List.exists_cons_of_ne_nil hwhole.ne_nil
        have hd := hwhole.isDigit d (hwholeEq ▸ List.mem_cons_self)
        rw [hwholeEq, hnegative, List.nil_append, List.cons_append,
          splitSign_of_isDigit hd]
    have hspan : (p.whole ++ (fs ++ es)).span Digits.isDigit = (p.whole, fs ++ es) :=
      span_append_of_all hwhole.isDigit (isDigit_of_mem_head?_append hfraction hexponent)
    have hpoint : Decimal.splitFraction (fs ++ es) = (p.fraction.getD [], es) := by
      generalize p.fraction = fraction at hfraction ⊢
      cases hfraction with
      | none =>
        rw [List.nil_append, Option.getD_none]
        unfold Decimal.splitFraction
        split
        · next rest =>
          rcases hexponent.head_eq '.' rfl with heq | heq <;> cases heq
        · rfl
      | point hdigits =>
        refine span_append_of_all hdigits.isDigit fun c hc => ?_
        rcases hexponent.head_eq c hc with rfl | rfl <;> rfl
    unfold Decimal.ofChars?
    rw [hsign]
    dsimp only
    rw [hspan]
    dsimp only
    rw [hpoint, if_neg fun hnil => hwhole.ne_nil hnil.1, hexponent.exponentOfChars?]
    rfl

/-- A text that spells a number denotes the number that its decimal is read as. -/
theorem NumberParts.Spells.numberOfTrimmed? {p : NumberParts} {cs : List Char} (h : p.Spells cs) :
    Scalar.numberOfTrimmed? cs = p.decimal.toBinary64.finite? := by
  have hletter : ∀ d ∈ ['x', 'o', 'b'], d ∉ cs.map Char.toLower := by
    intro d hd hmem
    obtain ⟨c, hc, hlower⟩ := List.mem_map.1 hmem
    exact toLower_ne_of_spellsNumber (h.spellsNumber c hc) hd hlower
  unfold Scalar.numberOfTrimmed?
  dsimp only
  split
  · next heq => exact absurd (heq ▸ by simp) (hletter 'x' (by decide))
  · next heq => exact absurd (heq ▸ by simp) (hletter 'o' (by decide))
  · next heq => exact absurd (heq ▸ by simp) (hletter 'b' (by decide))
  · rw [h.ofChars?, Option.bind_some]

/-! ### Reading JSON texts -/

/-- Characters that begin with others. -/
theorem exists_append_of_map_char_eq {cs word : List Char} {rest : List Symbol}
    (h : cs.map .char = word.map .char ++ rest) : ∃ more, cs = word ++ more ∧ rest = more.map .char := by
  obtain ⟨front, more, rfl, hfront, rfl⟩ := List.map_eq_append_iff.1 h
  have hword : front = word := List.map_injective_iff.2 (fun _ _ => Symbol.char.inj) hfront
  exact ⟨more, by rw [hword], rfl⟩

section Sound

variable {cs : List Char} {rest : List Symbol}

theorem exists_of_readDigits {digits : List Char}
    (h : readDigits (cs.map .char) = .ok (digits, rest)) :
    IsDigitRun digits ∧ ∃ more, cs = digits ++ more ∧ rest = more.map .char := by
  unfold readDigits at h
  split at h
  · cases h
  · cases h
  · next digits' rest' hnotEnd hnotBad hsplit =>
    cases h
    obtain ⟨hdigits, hinput⟩ := splitDigits_spec hsplit
    refine ⟨⟨?_, hdigits⟩, exists_append_of_map_char_eq hinput⟩
    rintro rfl
    cases rest with
    | nil => exact hnotEnd rfl rfl
    | cons s others => exact hnotBad s others rfl rfl

theorem exists_of_readWhole {digits : List Char}
    (h : readWhole (cs.map .char) = .ok (digits, rest)) :
    IsWholePart digits ∧ ∃ more, cs = digits ++ more ∧ rest = more.map .char := by
  obtain ⟨⟨digits', rest'⟩, hread, h⟩ := bind_eq_ok_iff.1 h
  split at h
  · cases h
  · next hzero =>
    cases h
    obtain ⟨hdigits, hmore⟩ := exists_of_readDigits hread
    refine ⟨⟨hdigits, ?_⟩, hmore⟩
    rintro others rfl
    cases others with
    | nil => rfl
    | cons d others => exact absurd rfl (hzero d others rest)

theorem exists_of_readFraction {fraction : Option (List Char)}
    (h : readFraction (cs.map .char) = .ok (fraction, rest)) :
    ∃ fs more, SpellsFraction fraction fs ∧ cs = fs ++ more ∧ rest = more.map .char := by
  by_cases hpoint : ∃ after, cs = '.' :: after
  · obtain ⟨after, rfl⟩ := hpoint
    obtain ⟨⟨digits, rest'⟩, hread, h⟩ := bind_eq_ok_iff.1 h
    cases h
    obtain ⟨hdigits, more, rfl, rfl⟩ := exists_of_readDigits hread
    exact ⟨'.' :: digits, more, .point hdigits, rfl, rfl⟩
  · have hnone : ∀ after, cs.map Symbol.char ≠ .char '.' :: after := by
      intro after heq
      obtain ⟨c, others, rfl, hc, -⟩ := List.map_eq_cons_iff.1 heq
      cases hc
      exact hpoint ⟨others, rfl⟩
    rw [readFraction_eq_none hnone] at h
    cases h
    exact ⟨[], cs, .none, rfl, rfl⟩

theorem exists_of_splitExponentSign {negative : Bool}
    (h : splitExponentSign (cs.map .char) = (negative, rest)) :
    ∃ sign more, SpellsExponentSign negative sign ∧ cs = sign ++ more ∧ rest = more.map .char := by
  unfold splitExponentSign at h
  split at h
  · next after heq =>
    obtain ⟨c, others, rfl, hc, rfl⟩ := List.map_eq_cons_iff.1 heq
    cases hc
    cases h
    exact ⟨['-'], others, .minus, rfl, rfl⟩
  · next after heq =>
    obtain ⟨c, others, rfl, hc, rfl⟩ := List.map_eq_cons_iff.1 heq
    cases hc
    cases h
    exact ⟨['+'], others, .plus, rfl, rfl⟩
  · cases h
    exact ⟨[], cs, .none, rfl, rfl⟩

theorem exists_of_readExponent {exponent : Option Int}
    (h : readExponent (cs.map .char) = .ok (exponent, rest)) :
    ∃ es more, SpellsExponent exponent es ∧ cs = es ++ more ∧ rest = more.map .char := by
  by_cases hletter : ∃ c after, (c = 'e' ∨ c = 'E') ∧ cs = c :: after
  · obtain ⟨c, after, hc, rfl⟩ := hletter
    rw [List.map_cons, readExponent_cons hc] at h
    obtain ⟨⟨digits, rest'⟩, hread, h⟩ := bind_eq_ok_iff.1 h
    cases h
    have hsplit : splitExponentSign (after.map .char) =
        ((splitExponentSign (after.map .char)).1, (splitExponentSign (after.map .char)).2) := rfl
    obtain ⟨sign, others, hsign, hafter, hothers⟩ := exists_of_splitExponentSign hsplit
    rw [hothers] at hread
    obtain ⟨hdigits, more, rfl, rfl⟩ := exists_of_readDigits hread
    exact ⟨c :: (sign ++ digits), more, .letter hc hsign hdigits, by simp [hafter], rfl⟩
  · have hnone : ∀ c after, (c = 'e' ∨ c = 'E') → cs.map Symbol.char ≠ .char c :: after := by
      intro c after hc heq
      obtain ⟨d, others, rfl, hd, -⟩ := List.map_eq_cons_iff.1 heq
      cases hd
      exact hletter ⟨c, others, hc, rfl⟩
    rw [readExponent_eq_none hnone] at h
    cases h
    exact ⟨[], cs, .none, rfl, rfl⟩

theorem exists_of_readUnsigned {negative : Bool} {n : Number}
    (h : readUnsigned negative (cs.map .char) = .ok (n, rest)) :
    ∃ (p : NumberParts) (word more : List Char), p.negative = negative ∧
      p.Spells (p.signChars ++ word) ∧ p.number = .ok n ∧ cs = word ++ more ∧
      rest = more.map .char := by
  obtain ⟨⟨whole, rest₁⟩, hwhole, h⟩ := bind_eq_ok_iff.1 h
  obtain ⟨⟨fraction, rest₂⟩, hfraction, h⟩ := bind_eq_ok_iff.1 h
  obtain ⟨⟨exponent, rest₃⟩, hexponent, h⟩ := bind_eq_ok_iff.1 h
  obtain ⟨n', hn, h⟩ := bind_eq_ok_iff.1 h
  cases h
  obtain ⟨hw, more₁, rfl, rfl⟩ := exists_of_readWhole hwhole
  obtain ⟨fs, more₂, hf, rfl, rfl⟩ := exists_of_readFraction hfraction
  obtain ⟨es, more₃, he, rfl, rfl⟩ := exists_of_readExponent hexponent
  exact ⟨⟨negative, whole, fraction, exponent⟩, _, more₃, rfl, .mk hw hf he, hn, by simp, rfl⟩

/-- What is read as a number is a spelling of it. -/
theorem exists_of_readNumber {n : Number} (h : readNumber (cs.map .char) = .ok (n, rest)) :
    ∃ (p : NumberParts) (word more : List Char), p.Spells word ∧ p.number = .ok n ∧
      cs = word ++ more ∧ rest = more.map .char := by
  by_cases hminus : ∃ after, cs = '-' :: after
  · obtain ⟨after, rfl⟩ := hminus
    have hafter : readUnsigned true (after.map .char) = .ok (n, rest) := h
    obtain ⟨p, word, more, hnegative, hspells, hn, rfl, rfl⟩ := exists_of_readUnsigned hafter
    rw [NumberParts.signChars, if_pos hnegative] at hspells
    exact ⟨p, '-' :: word, more, hspells, hn, rfl, rfl⟩
  · have hminus : ∀ after, cs.map Symbol.char ≠ .char '-' :: after := by
      intro after heq
      obtain ⟨c, others, rfl, hc, -⟩ := List.map_eq_cons_iff.1 heq
      cases hc
      exact hminus ⟨others, rfl⟩
    rw [readNumber_eq_readUnsigned hminus] at h
    obtain ⟨p, word, more, hnegative, hspells, hn, rfl, rfl⟩ := exists_of_readUnsigned h
    rw [NumberParts.signChars, hnegative, if_neg Bool.false_ne_true, List.nil_append] at hspells
    exact ⟨p, word, more, hspells, hn, rfl, rfl⟩

end Sound

section Complete

variable {cs more : List Char}

theorem splitDigits_append (hdigits : ∀ c ∈ cs, Digits.isDigit c = true)
    (hmore : ∀ c ∈ more.head?, Digits.isDigit c = false) :
    splitDigits ((cs ++ more).map .char) = (cs, more.map .char) := by
  induction cs with
  | nil =>
    cases more with
    | nil => rfl
    | cons c rest => exact if_neg (by simp [hmore c rfl])
  | cons d rest ih =>
    obtain ⟨hd, hrest⟩ := List.forall_mem_cons.1 hdigits
    rw [List.cons_append, List.map_cons, splitDigits, if_pos hd, ih hrest]

theorem IsDigitRun.readDigits_append (h : IsDigitRun cs)
    (hmore : ∀ c ∈ more.head?, Digits.isDigit c = false) :
    readDigits ((cs ++ more).map .char) = .ok (cs, more.map .char) := by
  rw [readDigits, splitDigits_append h.isDigit hmore]
  obtain ⟨d, rest, rfl⟩ := List.exists_cons_of_ne_nil h.ne_nil
  rfl

theorem IsWholePart.readWhole_append (h : IsWholePart cs)
    (hmore : ∀ c ∈ more.head?, Digits.isDigit c = false) :
    readWhole ((cs ++ more).map .char) = .ok (cs, more.map .char) := by
  refine bind_eq_ok_iff.2 ⟨_, h.readDigits_append hmore, ?_⟩
  split
  · next d others rest heq =>
    cases heq
    cases h.zero_alone _ rfl
  · rfl

theorem SpellsFraction.readFraction_append {fraction : Option (List Char)}
    (h : SpellsFraction fraction cs)
    (hmore : ∀ c ∈ more.head?, Digits.isDigit c = false ∧ c ≠ '.') :
    readFraction ((cs ++ more).map .char) = .ok (fraction, more.map .char) := by
  cases h with
  | none =>
    refine readFraction_eq_none ?_
    intro rest heq
    obtain ⟨c, others, rfl, hc, -⟩ := List.map_eq_cons_iff.1 heq
    exact (hmore c rfl).2 (Symbol.char.inj hc)
  | point hdigits =>
    exact bind_eq_ok_iff.2 ⟨_, hdigits.readDigits_append fun c hc => (hmore c hc).1, rfl⟩

theorem SpellsExponentSign.splitExponentSign_append {negative : Bool}
    (h : SpellsExponentSign negative cs) (hmore : IsDigitRun more) :
    splitExponentSign ((cs ++ more).map .char) = (negative, more.map .char) := by
  cases h with
  | plus => rfl
  | minus => rfl
  | none =>
    obtain ⟨d, rest, rfl⟩ := List.exists_cons_of_ne_nil hmore.ne_nil
    have hd := hmore.isDigit d List.mem_cons_self
    rw [List.nil_append, List.map_cons]
    unfold splitExponentSign
    split
    · next heq =>
      cases heq
      cases hd
    · next heq =>
      cases heq
      cases hd
    · rfl

theorem SpellsExponent.readExponent_eq {exponent : Option Int} (h : SpellsExponent exponent cs) :
    readExponent (cs.map .char) = .ok (exponent, []) := by
  cases h with
  | none => rfl
  | @letter c negative sign digits hc hsign hdigits =>
    have hread : readDigits (digits.map .char) = .ok (digits, []) := by
      have hall : readDigits ((digits ++ []).map .char) = .ok (digits, [].map .char) :=
        hdigits.readDigits_append (by simp)
      rwa [List.append_nil] at hall
    rw [List.map_cons, readExponent_cons hc, hsign.splitExponentSign_append hdigits]
    exact bind_eq_ok_iff.2 ⟨_, hread, rfl⟩

namespace NumberParts

variable {p : NumberParts}

/-- A spelling of a number is read as this number. -/
theorem Spells.readNumber_eq {n : Number} (h : p.Spells cs) (hn : p.number = .ok n) :
    readNumber (cs.map .char) = .ok (n, []) := by
  cases h with
  | @mk fs es hwhole hfraction hexponent =>
    have hmore : ∀ c ∈ es.head?, Digits.isDigit c = false ∧ c ≠ '.' := by
      intro c hc
      rcases hexponent.head_eq c hc with rfl | rfl <;> exact ⟨rfl, by decide⟩
    have hunsigned : readUnsigned p.negative ((p.whole ++ (fs ++ es)).map .char) = .ok (n, []) :=
      bind_eq_ok_iff.2
        ⟨_, hwhole.readWhole_append (isDigit_of_mem_head?_append hfraction hexponent),
          bind_eq_ok_iff.2 ⟨_, hfraction.readFraction_append hmore,
            bind_eq_ok_iff.2 ⟨_, hexponent.readExponent_eq, bind_eq_ok_iff.2 ⟨n, hn, rfl⟩⟩⟩⟩
    unfold signChars
    split
    · next hnegative =>
      rw [hnegative] at hunsigned
      exact hunsigned
    · next hnegative =>
      rw [Bool.not_eq_true] at hnegative
      rw [hnegative] at hunsigned
      obtain ⟨d, rest, hcons⟩ := List.exists_cons_of_ne_nil hwhole.ne_nil
      have hd := hwhole.isDigit d (hcons ▸ List.mem_cons_self)
      rw [hcons] at hunsigned
      rw [List.nil_append, hcons]
      rw [readNumber_eq_readUnsigned fun after heq => ?_]
      · exact hunsigned
      · cases heq
        cases hd

theorem Spells.startsNumber (h : p.Spells cs) : ∃ c rest, cs = c :: rest ∧ StartsNumber c := by
  cases h with
  | mk hwhole =>
    obtain ⟨d, rest, hcons⟩ := List.exists_cons_of_ne_nil hwhole.ne_nil
    unfold signChars
    split
    · exact ⟨'-', _, rfl, .inl rfl⟩
    · exact ⟨d, _, by rw [hcons]; rfl, .inr (hwhole.isDigit d (hcons ▸ List.mem_cons_self))⟩

end NumberParts

end Complete

/-! ### Texts -/

/-- A spelling of a number is a JSON text. -/
theorem NumberParts.Spells.ofSymbols_eq {p : NumberParts} {cs : List Char} {n : Number}
    (h : p.Spells cs) (hn : p.number = .ok n) : ofSymbols (cs.map .char) = .ok (.number n) := by
  have hread := h.readNumber_eq hn
  obtain ⟨c, rest, rfl, hstart⟩ := h.startsNumber
  have hspace : isSpace (.char c) = false := by
    by_contra hspace
    have hblank := isBlank_of_isSpace (Bool.not_eq_false _ ▸ hspace)
    rw [isBlank_of_startsNumber hstart] at hblank
    cases hblank
  have hvalue : readValue depthLimit ((c :: rest).map .char) = .ok (.number n, []) :=
    readValueWith_eq_number_iff.2 ⟨c, rest.map .char, skipSpace_cons hspace _, hstart, hread⟩
  exact bind_eq_ok_iff.2 ⟨_, hvalue, rfl⟩

/-- A JSON text that is a number is a spelling of it with white space around it. -/
theorem exists_spells_of_ofSymbols {cs : List Char} {n : Number}
    (h : ofSymbols (cs.map .char) = .ok (.number n)) :
    ∃ (p : NumberParts) (before word after : List Char), cs = before ++ word ++ after ∧
      (∀ c ∈ before, isSpace (.char c) = true) ∧ (∀ c ∈ after, isSpace (.char c) = true) ∧
      p.Spells word ∧ p.number = .ok n := by
  obtain ⟨⟨value, rest⟩, hvalue, hend⟩ := bind_eq_ok_iff.1 h
  obtain ⟨hrest, rfl⟩ := readEnd_eq_ok_iff.1 hend
  obtain ⟨c, behind, hskip, -, hread⟩ := readValueWith_eq_number_iff.1 hvalue
  have hsplit : cs.map Symbol.char = (cs.map Symbol.char).takeWhile isSpace ++ .char c :: behind := by
    rw [← hskip]
    exact (List.takeWhile_append_dropWhile).symm
  obtain ⟨before, others, rfl, hbefore, hothers⟩ := List.map_eq_append_iff.1 hsplit
  rw [← hothers] at hread
  obtain ⟨p, word, after, hspells, hn, rfl, rfl⟩ := exists_of_readNumber hread
  refine ⟨p, before, word, after, (List.append_assoc _ _ _).symm, ?_, ?_, hspells, hn⟩
  · intro c hc
    have hmem : Symbol.char c ∈ before.map .char := List.mem_map_of_mem hc
    rw [hbefore] at hmem
    exact List.mem_takeWhile_imp hmem
  · exact fun c hc => List.dropWhile_eq_nil_iff.1 hrest _ (List.mem_map_of_mem hc)

theorem NumberParts.Spells.parse_eq {p : NumberParts} {s : String} {n : Number}
    (h : p.Spells s.toList) (hn : p.number = .ok n) : parse s = .ok (.number n) :=
  h.ofSymbols_eq hn

/-- Trimming a JSON text that is a number leaves the spelling of the number. -/
theorem exists_spells_of_parse {s : String} {n : Number} (h : parse s = .ok (.number n)) :
    ∃ p : NumberParts, p.Spells (Text.trimChars s.toList) ∧ p.number = .ok n := by
  obtain ⟨p, before, word, after, hs, hbefore, hafter, hspells, hn⟩ := exists_spells_of_ofSymbols h
  refine ⟨p, ?_, hn⟩
  rw [hs, Text.trimChars_append_blanks fun c hc => isBlank_of_isSpace (hafter c hc),
    Text.trimChars_blanks_append fun c hc => isBlank_of_isSpace (hbefore c hc), hspells.trimChars]
  exact hspells

/-! ### Numbers that are accepted -/

namespace NumberParts

variable {p : NumberParts}

theorem fitted_eq_decimal (h : p.decimal.significand < 2 ^ 64) : p.fitted = p.decimal :=
  Decimal.fitParts_eq_ofParts _ _ h

/-- A number is kept if the steps do not lead to one that is too large. -/
theorem exists_number (h : ∃ x, p.fitted.toBinary64InSteps = .finite x) :
    ∃ n, p.number = .ok n := by
  obtain ⟨x, hx⟩ := h
  have hfitted : (Decimal.fitParts p.negative p.whole (p.fraction.getD [])
      (p.exponent.getD 0)).toBinary64InSteps = .finite x := hx
  unfold number Number.ofParts
  dsimp only
  rw [hfitted]
  split
  · exact ⟨_, rfl⟩
  · exact ⟨_, rfl⟩

/-- A number without exponent is kept if it does not have very many digits before the point. -/
theorem exists_number_of_length_le (hexponent : p.exponent = none) (hlength : p.whole.length ≤ 288) :
    ∃ n, p.number = .ok n := by
  refine exists_number (Decimal.exists_toBinary64InSteps_of_exponent_le
    (Decimal.significand_fitParts_lt _ _ _ _) ?_)
  have hle := Decimal.exponent_fitParts_le p.negative p.whole (p.fraction.getD [])
    (p.exponent.getD 0)
  rw [hexponent, Option.getD_none] at hle
  rw [fitted, hexponent, Option.getD_none]
  omega

/-- A number of seventeen digits is kept if it does not exceed the shortest decimal of the largest
number. -/
theorem exists_number_of_magnitude_le (hzero : p.decimal.significand ≠ 0)
    (hsignificand : p.decimal.significand ≤ 10 ^ 17)
    (hmagnitude : p.decimal.magnitude ≤
      (⟨p.decimal.negative, 17976931348623157, 292⟩ : Decimal).magnitude) :
    ∃ n, p.number = .ok n := by
  refine exists_number ?_
  rw [fitted_eq_decimal (Nat.lt_of_le_of_lt hsignificand (by decide))]
  exact Decimal.exists_toBinary64InSteps_of_magnitude_le hzero hsignificand hmagnitude

end NumberParts

/-! ### Where both readers agree -/

/-- Whether a number is the floating-point number nearest to what a text spells. -/
def Number.IsNearest (n : Number) (s : String) : Prop :=
  ∀ p : NumberParts, p.Spells (Text.trimChars s.toList) → n.toBinary64 = p.decimal.toBinary64

/-- A text that is a JSON number denotes the same number as the JSON value, where this is the nearest
one. -/
theorem numberOfText?_of_parse {s : String} {n : Number} (h : parse s = .ok (.number n))
    (hnearest : n.IsNearest s) : Scalar.numberOfText? s = n.toBinary64.finite? := by
  obtain ⟨p, hspells, -⟩ := exists_spells_of_parse h
  rw [Scalar.numberOfText?, hspells.numberOfTrimmed?, hnearest p hspells]

/-- A spelling is the spelling of one decimal. -/
theorem NumberParts.Spells.decimal_eq {p q : NumberParts} {cs : List Char} (hp : p.Spells cs)
    (hq : q.Spells cs) : p.decimal = q.decimal :=
  Option.some.inj (hp.ofChars?.symm.trans hq.ofChars?)

theorem Integer.of_ofParts? {negative : Bool} {magnitude : Nat} {m : Integer}
    (h : Integer.ofParts? negative magnitude = some m) :
    decide (m.val < 0) = negative ∧ m.val.natAbs = magnitude := by
  unfold ofParts? at h
  split_ifs at h with hnegative hrange hrange
  · cases h
    simp [hnegative]
    omega
  · cases h
    simp [hnegative]

/-- A number is kept as a whole number, of which the decimal is read as the nearest one, or it is what
the steps lead to. -/
theorem NumberParts.of_number {p : NumberParts} {n : Number} (h : p.number = .ok n) :
    (∃ m, n = .integer m ∧ n.toBinary64 = p.decimal.toBinary64) ∨
      ∃ x, n = .decimal x ∧ p.fitted.toBinary64InSteps = .finite x := by
  unfold number Number.ofParts at h
  dsimp only at h
  split at h
  · next m hexact =>
    cases h
    rw [Option.ite_none_right_eq_some, Bool.and_eq_true, Option.isNone_iff_eq_none,
      Option.isNone_iff_eq_none] at hexact
    obtain ⟨⟨hfraction, hexponent⟩, hm⟩ := hexact
    obtain ⟨hnegative, hmagnitude⟩ := Integer.of_ofParts? hm
    have hdecimal : p.decimal = ⟨decide (m.val < 0), m.val.natAbs, 0⟩ := by
      simp [decimal, Decimal.ofParts, hfraction, hexponent, hnegative, hmagnitude]
    refine .inl ⟨m, rfl, ?_⟩
    rw [hdecimal, Decimal.toBinary64_exponent_zero]
    rfl
  · split at h
    · next x hx =>
      cases h
      exact .inr ⟨x, rfl, hx⟩
    · cases h

/-- Of a whole number that is kept as it is the floating-point number is the nearest one. -/
theorem isNearest_of_parse_integer {s : String} {m : Integer}
    (h : parse s = .ok (.number (.integer m))) : (Number.integer m).IsNearest s := by
  obtain ⟨p, hp, hn⟩ := exists_spells_of_parse h
  rcases NumberParts.of_number hn with ⟨-, -, hnearest⟩ | ⟨x, hx, -⟩
  · exact fun q hq => hp.decimal_eq hq ▸ hnearest
  · cases hx

/-- Numbers of up to 53 bits and twenty-two places are read as the nearest one. -/
theorem isNearest_of_parse {s : String} {n : Number} (h : parse s = .ok (.number n))
    {p : NumberParts} (hp : p.Spells (Text.trimChars s.toList))
    (hsignificand : p.decimal.significand ≤ 2 ^ 53) (hexponent : p.decimal.exponent.natAbs ≤ 22) :
    n.IsNearest s := by
  obtain ⟨q, hq, hn⟩ := exists_spells_of_parse h
  have hdecimal := hp.decimal_eq hq
  rw [hdecimal] at hsignificand hexponent
  intro r hr
  rw [← hq.decimal_eq hr]
  rcases NumberParts.of_number hn with ⟨-, -, hnearest⟩ | ⟨x, rfl, hx⟩
  · exact hnearest
  · have hfitted := NumberParts.fitted_eq_decimal (Nat.lt_of_le_of_lt hsignificand (by decide))
    rw [hfitted, Decimal.toBinary64InSteps_eq hsignificand hexponent] at hx
    exact hx.symm

end Json
end LooseRecords
