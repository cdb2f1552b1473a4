/-!
# Digits

Numbers written with the ASCII digits. The value of a written number is the number itself
(`value_decimal`), so two numbers are never written alike.
-/

namespace LooseRecords
namespace Digits

/-- The character of a digit below sixteen. -/
def digitChar (d : Nat) : Char :=
  if d < 10 then Char.ofNat (48 + d) else Char.ofNat (87 + d)

/-- The value of a digit of the given base, at most sixteen; letters count in either case. -/
def digitValue? (base : Nat) (c : Char) : Option Nat :=
  let n := c.toNat
  let d :=
    if 48 ≤ n ∧ n ≤ 57 then n - 48
    else if 97 ≤ n ∧ n ≤ 102 then n - 87
    else if 65 ≤ n ∧ n ≤ 70 then n - 55
    else 16
  if d < base then some d else none

/-- Whether `c` is one of the ten decimal digits. -/
def isDigit (c : Char) : Bool :=
  48 ≤ c.toNat && c.toNat ≤ 57

/-- The value of a decimal digit. -/
def digitValue (c : Char) : Nat :=
  c.toNat - 48

/-- The number that a run of decimal digits denotes. -/
def value (cs : List Char) : Nat :=
  cs.foldl (fun n c => 10 * n + digitValue c) 0

/-- The number that a run of digits of the given base denotes, if all of them are such digits. -/
def valueIn? (base : Nat) (cs : List Char) : Option Nat :=
  cs.foldlM (fun n c => (digitValue? base c).map (base * n + ·)) 0

/-- Puts the digits of `n` in front of `tail`; `fuel` bounds their number. -/
def digitsOnto (base : Nat) : Nat → Nat → List Char → List Char
  | 0, _, tail => tail
  | fuel + 1, n, tail =>
      if n < base then digitChar n :: tail
      else digitsOnto base fuel (n / base) (digitChar (n % base) :: tail)

/-- A number in decimal digits, without leading zeros. -/
def decimal (n : Nat) : List Char :=
  digitsOnto 10 (n.log2 + 1) n []

/-- A number in hexadecimal digits with small letters, without leading zeros. -/
def hexadecimal (n : Nat) : List Char :=
  digitsOnto 16 (n.log2 + 1) n []

/-- A run of digits brought to at least `width` by leading zeros. -/
def padLeft (width : Nat) (cs : List Char) : List Char :=
  List.replicate (width - cs.length) '0' ++ cs

/-- An integer in decimal digits, with a minus sign where it is negative. -/
def signed (n : Int) : List Char :=
  if n < 0 then '-' :: decimal n.natAbs else decimal n.natAbs

/-- A number in decimal digits, as a text. -/
def text (n : Nat) : String :=
  String.ofList (decimal n)

/-- An integer in decimal digits, as a text. -/
def signedText (n : Int) : String :=
  String.ofList (signed n)

theorem digitValue_digitChar {d : Nat} (h : d < 10) : digitValue (digitChar d) = d := by
  have all : ∀ e ∈ List.range 10, digitValue (digitChar e) = e := by decide
  exact all d (List.mem_range.2 h)

theorem foldl_digitsOnto (fuel : Nat) : ∀ (n : Nat) (tail : List Char), n < Nat.pow 10 fuel →
    (digitsOnto 10 fuel n tail).foldl (fun n c => 10 * n + digitValue c) 0 =
      tail.foldl (fun n c => 10 * n + digitValue c) n := by
  induction fuel with
  | zero => intro n tail h; simp at h; simp [digitsOnto, h]
  | succ fuel ih =>
    intro n tail h
    rw [digitsOnto]
    split
    · next small => simp [digitValue_digitChar small]
    · have h : n < Nat.pow 10 fuel * 10 := h
      rw [ih (n / 10) _ (by omega)]
      simp only [List.foldl_cons, digitValue_digitChar (Nat.mod_lt n (by decide))]
      congr 1
      omega

/-- Reading a number as it is written gives the number back. -/
theorem value_decimal (n : Nat) : value (decimal n) = n := by
  have bound : n < 10 ^ (n.log2 + 1) :=
    Nat.lt_of_lt_of_le Nat.lt_log2_self (Nat.pow_le_pow_left (by decide) _)
  simpa [value, decimal] using foldl_digitsOnto (n.log2 + 1) n [] bound

theorem decimal_injective {m n : Nat} (h : decimal m = decimal n) : m = n := by
  rw [← value_decimal m, h, value_decimal]

end Digits
end LooseRecords
