import LooseRecords.Json.Reader
import LooseRecords.Proofs.Checks
import LooseRecords.Proofs.Json.Strings
import LooseRecords.Proofs.Text.Digits

/-!
# Reading numbers

Equations for the readers of the parts of a number, by what stands in front.  A value is read as a
number exactly where the first symbol that is no white space is a minus sign or a digit and a number is
read there (`readValueWith_eq_number_iff`).
-/

namespace LooseRecords
namespace Json

open Text (Symbol)

/-! ### The parts of a number -/

/-- Digits are split off in front. -/
theorem splitDigits_spec {input rest : List Symbol} {digits : List Char}
    (h : splitDigits input = (digits, rest)) :
    (∀ c ∈ digits, Digits.isDigit c = true) ∧ input = digits.map .char ++ rest := by
  induction input generalizing digits with
  | nil =>
    cases h
    exact ⟨by simp, rfl⟩
  | cons s input ih =>
    cases s with
    | stray byte =>
      cases h
      exact ⟨by simp, rfl⟩
    | char c =>
      rw [splitDigits] at h
      split at h
      · next hc =>
        cases h
        obtain ⟨hdigits, hinput⟩ := ih rfl
        exact ⟨List.forall_mem_cons.2 ⟨hc, hdigits⟩, congrArg (Symbol.char c :: ·) hinput⟩
      · cases h
        exact ⟨by simp, rfl⟩

/-- A text without a point in front has no fraction. -/
theorem readFraction_eq_none {input : List Symbol} (h : ∀ rest, input ≠ .char '.' :: rest) :
    readFraction input = .ok (none, input) := by
  unfold readFraction
  split
  · next rest => exact absurd rfl (h rest)
  · rfl

/-- A text without the letter of an exponent in front has no exponent. -/
theorem readExponent_eq_none {input : List Symbol}
    (h : ∀ c rest, (c = 'e' ∨ c = 'E') → input ≠ .char c :: rest) :
    readExponent input = .ok (none, input) := by
  unfold readExponent
  split
  · next c rest => exact if_neg fun hc => h c rest hc rfl
  · rfl

/-- After the letter of an exponent its sign and its digits are read. -/
theorem readExponent_cons {c : Char} (hc : c = 'e' ∨ c = 'E') (input : List Symbol) :
    readExponent (.char c :: input) =
      (readDigits (splitExponentSign input).2).bind fun read =>
        .ok (some (if (splitExponentSign input).1 then -(Digits.value read.1 : Int)
          else Digits.value read.1), read.2) := by
  rw [readExponent, if_pos hc]
  rfl

/-- What does not start with a minus sign is read without sign. -/
theorem readNumber_eq_readUnsigned {input : List Symbol} (h : ∀ after, input ≠ .char '-' :: after) :
    readNumber input = readUnsigned false input := by
  unfold readNumber
  split
  · next after => exact absurd rfl (h after)
  · rfl

/-! ### Where numbers stand -/

/-- Whether a number can start with a character. -/
def StartsNumber (c : Char) : Prop :=
  c = '-' ∨ Digits.isDigit c = true

theorem isBlank_of_startsNumber {c : Char} (h : StartsNumber c) : Text.isBlank c = false := by
  rcases h with rfl | hdigit
  · rfl
  · exact Digits.isBlank_of_isDigit hdigit

theorem ne_of_startsNumber {c d : Char} (h : StartsNumber c) (hminus : d ≠ '-')
    (hdigit : Digits.isDigit d = false) : c ≠ d := by
  rcases h with rfl | hc
  · exact hminus.symm
  · exact Digits.ne_of_isDigit hc hdigit

/-- White space between the parts of a JSON text is blank. -/
theorem isBlank_of_isSpace {c : Char} (h : isSpace (.char c) = true) : Text.isBlank c = true := by
  simp only [isSpace, Bool.or_eq_true, decide_eq_true_eq, Symbol.char.injEq] at h
  rcases h with ((rfl | rfl) | rfl) | rfl <;> rfl

/-- A value is read as a number exactly where a number can start and is read. -/
theorem readValueWith_eq_number_iff {readItem : Option (List Symbol → Except Fault (Read Json))}
    {input rest : List Symbol} {n : Number} :
    readValueWith readItem input = .ok (.number n, rest) ↔
      ∃ c after, skipSpace input = .char c :: after ∧ StartsNumber c ∧
        readNumber (.char c :: after) = .ok (n, rest) := by
  constructor
  · intro h
    unfold readValueWith at h
    split at h
    · cases h
    · cases h
    · next c after hskip =>
      split_ifs at h with hnull htrue hfalse hnumber hstring harray hobject
      · obtain ⟨_, -, h⟩ := bind_eq_ok_iff.1 h
        cases h
      · obtain ⟨_, -, h⟩ := bind_eq_ok_iff.1 h
        cases h
      · obtain ⟨_, -, h⟩ := bind_eq_ok_iff.1 h
        cases h
      · obtain ⟨_, hread, h⟩ := bind_eq_ok_iff.1 h
        cases h
        exact ⟨c, after, hskip, hnumber, hread⟩
      · obtain ⟨_, -, h⟩ := bind_eq_ok_iff.1 h
        cases h
      · split at h
        · cases h
        · obtain ⟨_, -, h⟩ := bind_eq_ok_iff.1 h
          cases h
      · split at h
        · cases h
        · obtain ⟨_, -, h⟩ := bind_eq_ok_iff.1 h
          cases h
  · rintro ⟨c, after, hskip, hc, hread⟩
    have hletter : c ≠ 'n' ∧ c ≠ 't' ∧ c ≠ 'f' :=
      ⟨ne_of_startsNumber hc (by decide) (by decide), ne_of_startsNumber hc (by decide) (by decide),
        ne_of_startsNumber hc (by decide) (by decide)⟩
    rw [readValueWith, hskip]
    dsimp only
    rw [StartsNumber] at hc
    rw [if_neg hletter.1, if_neg hletter.2.1, if_neg hletter.2.2, if_pos hc, hread]
    rfl

theorem readEnd_eq_ok_iff {α : Type} {found result : α} {input : List Symbol} :
    readEnd found input = .ok result ↔ skipSpace input = [] ∧ found = result := by
  unfold readEnd
  split <;> simp [*]

end Json
end LooseRecords
