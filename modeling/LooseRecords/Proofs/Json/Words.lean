import LooseRecords.Proofs.Json.Numbers

/-!
# Words are written in one way

Null and the truth values are words of letters, and the reader takes these letters one by one.  So a
text that is such a value, and has no blanks around it, is the word that is printed for it
(`Json.toList_eq_of_parse`).
-/

namespace LooseRecords
namespace Json

open Text (Symbol)

/-- Whether a value is written as a word of letters. -/
def IsWord : Json → Prop
  | .null | .bool _ => True
  | .number _ | .string _ | .array _ | .object _ => False

/-- The letters of a word are taken from the front of a text. -/
theorem readWord_eq_ok_iff {word : List Char} {input rest : List Symbol} :
    readWord word input = .ok rest ↔ input = word.map .char ++ rest := by
  induction word generalizing input with
  | nil => simp [readWord]
  | cons c cs ih =>
    cases input with
    | nil => simp [readWord]
    | cons s more =>
      rw [readWord]
      by_cases hs : s = .char c
      · simp [hs, ih]
      · simp [hs]

/-- Where a value is read that is a word, its letters come first after the white space. -/
theorem skipSpace_eq_of_readValueWith
    {readItem : Option (List Symbol → Except Fault (Read Json))} {input rest : List Symbol}
    {value : Json} (hword : value.IsWord) (h : readValueWith readItem input = .ok (value, rest)) :
    skipSpace input = value.chars.map .char ++ rest := by
  have hletters (found : Json) {letters : List Char} {c : Char} {after : List Symbol}
      (hc : c :: letters = found.chars)
      (hread : (readWord letters after).bind (fun rest => .ok (found, rest)) = .ok (value, rest)) :
      Symbol.char c :: after = value.chars.map .char ++ rest := by
    obtain ⟨rest', hafter, hfound⟩ := bind_eq_ok_iff.1 hread
    cases hfound
    rw [readWord_eq_ok_iff.1 hafter, ← hc]
    rfl
  unfold readValueWith at h
  split at h
  · cases h
  · cases h
  next c after hskip =>
    rw [hskip]
    split_ifs at h with hnull htrue hfalse hnumber hstring harray hobject
    · exact hletters .null (by rw [hnull]; rfl) h
    · exact hletters (.bool true) (by rw [htrue]; rfl) h
    · exact hletters (.bool false) (by rw [hfalse]; rfl) h
    · obtain ⟨_, -, hfound⟩ := bind_eq_ok_iff.1 h
      cases hfound
      cases hword
    · obtain ⟨_, -, hfound⟩ := bind_eq_ok_iff.1 h
      cases hfound
      cases hword
    · split at h
      · cases h
      · obtain ⟨_, -, hfound⟩ := bind_eq_ok_iff.1 h
        cases hfound
        cases hword
    · split at h
      · cases h
      · obtain ⟨_, -, hfound⟩ := bind_eq_ok_iff.1 h
        cases hfound
        cases hword

/-- A text without blanks around it that is null or a truth value is the word for this value. -/
theorem toList_eq_of_parse {s : String} (htrimmed : Text.trimChars s.toList = s.toList)
    {value : Json} (hword : value.IsWord) (h : parse s = .ok value) : s.toList = value.chars := by
  obtain ⟨⟨found, rest⟩, hfound, hend⟩ := bind_eq_ok_iff.1 h
  obtain ⟨hrest, rfl⟩ := readEnd_eq_ok_iff.1 hend
  have hblank {c : Char} (hc : isSpace (.char c) = true) : Text.isBlank c ≠ false := by
    rw [isBlank_of_isSpace hc]
    decide
  -- The text starts with no white space, so nothing of it is skipped.
  have hstart : skipSpace (Symbol.ofText s) = Symbol.ofText s := by
    cases hs : s.toList with
    | nil => rw [Symbol.ofText, hs]; rfl
    | cons c cs =>
      have hfirst : c ∈ (Text.trimChars s.toList).head? := by
        rw [htrimmed, hs]
        rfl
      have hc : Text.isBlank c = false := Text.isBlank_of_mem_head?_trimChars hfirst
      rw [Symbol.ofText, hs, List.map_cons]
      exact skipSpace_cons (Bool.not_eq_true _ ▸ fun hspace => hblank hspace hc) _
  have hinput : s.toList.map Symbol.char = found.chars.map .char ++ rest :=
    hstart.symm.trans (skipSpace_eq_of_readValueWith hword hfound)
  obtain ⟨front, behind, hs, hfront, rfl⟩ := List.map_eq_append_iff.1 hinput
  have hchars : front = found.chars :=
    List.map_injective_iff.2 (fun _ _ => Symbol.char.inj) hfront
  -- Nor does it end with white space, so nothing is left.
  have hbehind : behind = [] := by
    rcases List.eq_nil_or_concat behind with hnil | ⟨others, c, rfl⟩
    · exact hnil
    · have hlast : c ∈ (Text.trimChars s.toList).getLast? := by
        rw [htrimmed, hs]
        simp
      have hc : Text.isBlank c = false := Text.isBlank_of_mem_getLast?_trimChars hlast
      have hspace := List.dropWhile_eq_nil_iff.1 hrest (.char c) (by simp)
      exact absurd hc (hblank hspace)
  rw [hs, hbehind, hchars, List.append_nil]

end Json
end LooseRecords
