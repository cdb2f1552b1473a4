import LooseRecords.Json.Printer
import LooseRecords.Json.Reader
import Mathlib.Data.List.TakeDrop

/-!
# Printed strings are read back

A quotation mark within a string is printed after a backslash, so reading a printed string stops at
its own end and nowhere before it.  One character is read back from what is printed for it, whatever
comes after it; the whole string is then read back by induction on its characters.  The line breaks
between the parts of a printed value are skipped.
-/

namespace LooseRecords
namespace Json

open Text (Symbol)

/-! ### White space -/

theorem skipSpace_cons {s : Symbol} (hs : isSpace s = false) (rest : List Symbol) :
    skipSpace (s :: rest) = s :: rest := by
  rw [skipSpace, List.dropWhile_cons, hs, if_neg Bool.false_ne_true]

@[simp] theorem skipSpace_lineBreak (level : Nat) (input : List Symbol) :
    skipSpace ((lineBreak level).map .char ++ input) = skipSpace input := by
  refine List.dropWhile_append_of_pos fun s hs => ?_
  obtain ⟨c, hc, rfl⟩ := List.mem_map.1 hs
  rcases List.mem_cons.1 hc with rfl | hc
  · rfl
  · rw [List.eq_of_mem_replicate hc]
    rfl

/-! ### Escapes -/

theorem hexValue?_digitChar {d : Nat} (h : d < 16) :
    hexValue? (.char (Digits.digitChar d)) = some d := by
  have all : ∀ e ∈ List.range 16, hexValue? (.char (Digits.digitChar e)) = some e := by decide
  exact all d (List.mem_range.2 h)

/-- The four digits that are printed for a control denote its code point. -/
theorem readHex_control {n : Nat} (hn : n < 32) (rest : List Symbol) :
    readHex (.char '0' :: .char '0' :: .char (Digits.digitChar (n / 16)) ::
      .char (Digits.digitChar (n % 16)) :: rest) = .ok n := by
  have hwide : ∀ c : Char, 1 ≤ (Symbol.char c).width := fun c => c.utf8Size_pos
  have hfour : ¬Symbol.totalWidth ((Symbol.char '0' :: .char '0' ::
      .char (Digits.digitChar (n / 16)) :: .char (Digits.digitChar (n % 16)) :: rest).take 4) <
        4 := by
    simp only [List.take_succ_cons, List.take_zero, Symbol.totalWidth]
    have hhigh := hwide (Digits.digitChar (n / 16))
    have hlow := hwide (Digits.digitChar (n % 16))
    have hzero := hwide '0'
    omega
  have hzero : hexValue? (.char '0') = some 0 := rfl
  rw [readHex, if_neg hfour]
  simp only [hzero, hexValue?_digitChar (show n / 16 < 16 by omega),
    hexValue?_digitChar (show n % 16 < 16 by omega)]
  congr 1
  omega

/-- What is printed for a control, after the backslash, is read as the control. -/
theorem readEscape_control {c : Char} (hc : c.toNat < 0x20) (rest : List Symbol) :
    readEscape (.char 'u' :: .char '0' :: .char '0' :: .char (Digits.digitChar (c.toNat / 16)) ::
      .char (Digits.digitChar (c.toNat % 16)) :: rest) = .ok (c, 5) := by
  have hlow : ¬(0xDC00 ≤ c.toNat ∧ c.toNat ≤ 0xDFFF) := by omega
  have hhigh : ¬(0xD800 ≤ c.toNat ∧ c.toNat ≤ 0xDBFF) := by omega
  simp only [readEscape, readHex_control hc, bind, Except.bind, if_neg hlow, if_neg hhigh,
    Char.ofNat_toNat]

/-! ### Strings -/

/-- What is printed for a character of a string is read as the character. -/
theorem readStringFrom_escape (c : Char) (read : List Char) (rest : List Symbol) :
    readStringFrom 0 read true ((escape c).map .char ++ rest) =
      readStringFrom 0 (c :: read) true rest := by
  unfold escape
  split
  · next h => rcases h with rfl | rfl <;> rfl
  split
  · next h => rw [h]; rfl
  split
  · next h => rw [h]; rfl
  split
  · next h => rw [h]; rfl
  split
  · next h => rw [h]; rfl
  split
  · next h => rw [h]; rfl
  split
  · next hcontrol =>
    -- The five symbols after the backslash are skipped, as `readEscape` has looked at them.
    have hescape := readEscape_control hcontrol rest
    simp only [List.map_cons, List.map_nil, List.cons_append, List.nil_append]
    simp [readStringFrom, hescape]
  · next hquoted _ _ _ _ _ hcontrol =>
    have hmark : c ≠ '"' := fun h => hquoted (.inl h)
    have hslash : c ≠ '\\' := fun h => hquoted (.inr h)
    rw [List.map_singleton, List.singleton_append, readStringFrom]
    simp only [if_neg hmark, if_neg hslash, if_neg hcontrol]

/-- What is printed for the characters of a string is read as these characters. -/
theorem readStringFrom_flatMap_escape (cs : List Char) : ∀ (read : List Char) (rest : List Symbol),
    readStringFrom 0 read true ((cs.flatMap escape).map .char ++ rest) =
      readStringFrom 0 (cs.reverse ++ read) true rest := by
  induction cs with
  | nil => exact fun read rest => rfl
  | cons c cs ih =>
    intro read rest
    rw [List.flatMap_cons, List.map_append, List.append_assoc, readStringFrom_escape, ih,
      List.reverse_cons, List.append_assoc, List.singleton_append]

/-- The symbols of a printed string, of which the first is its opening quotation mark. -/
theorem map_char_quote (s : String) : (quote s).map Symbol.char =
    .char '"' :: ((s.toList.flatMap escape).map .char ++ [.char '"']) := by
  rw [quote, List.cons_append, List.map_cons, List.map_append, List.map_singleton]

/-- A printed string is read as the string, and what follows it is left. -/
theorem readString_quote (s : String) (rest : List Symbol) :
    readString ((s.toList.flatMap escape).map .char ++ .char '"' :: rest) = .ok (s, rest) := by
  have hend : readStringFrom 0 (s.toList.reverse ++ []) true (.char '"' :: rest) =
      .ok (String.ofList (s.toList.reverse ++ []).reverse, rest) := rfl
  rw [readString, readStringFrom_flatMap_escape, hend, List.append_nil, List.reverse_reverse,
    String.ofList_toList]

end Json
end LooseRecords
