import LooseRecords.Text.Blank
import Mathlib.Data.List.TakeWhile

/-!
# Trimming

Trimming leaves characters that neither start nor end with a blank, and leaves such characters as
they are.  Nothing is left exactly where there is nothing but blanks.
-/

namespace LooseRecords

/-- There is nothing to skip where the first character is not blank. -/
theorem skipBlanks_eq_self {cs : List Char} (h : ∀ c ∈ cs.head?, Text.isBlank c = false) :
    Text.skipBlanks cs = cs := by
  cases cs with
  | nil => rfl
  | cons c cs => exact List.dropWhile_cons_of_neg (by simp [h c rfl])

/-- Characters are untouched by trimming where the first and the last are not blank. -/
theorem trimChars_eq_self {cs : List Char} (hfirst : ∀ c ∈ cs.head?, Text.isBlank c = false)
    (hlast : ∀ c ∈ cs.getLast?, Text.isBlank c = false) : Text.trimChars cs = cs := by
  have hreverse : Text.skipBlanks cs.reverse = cs.reverse :=
    skipBlanks_eq_self (by simpa only [List.head?_reverse] using hlast)
  rw [Text.trimChars, skipBlanks_eq_self hfirst, hreverse, List.reverse_reverse]

namespace Text

variable {cs : List Char}

/-- What follows the leading blanks starts with no blank. -/
theorem isBlank_of_mem_head?_skipBlanks {c : Char} (h : c ∈ (skipBlanks cs).head?) :
    isBlank c = false := by
  have hfirst := List.head?_dropWhile_not isBlank cs
  rw [Option.mem_def, skipBlanks] at h
  rw [h] at hfirst
  exact hfirst

/-- Trimmed characters start with no blank. -/
theorem isBlank_of_mem_head?_trimChars {c : Char} (h : c ∈ (trimChars cs).head?) :
    isBlank c = false := by
  -- What is skipped at the end is no part of the characters before it.
  obtain ⟨skipped, hskipped⟩ := List.dropWhile_suffix isBlank (l := (skipBlanks cs).reverse)
  have hlast : c ∈ (skipBlanks cs).reverse.getLast? := by
    rw [trimChars, List.head?_reverse, Option.mem_def] at h
    rw [← hskipped, List.getLast?_append]
    exact Option.mem_def.2 (by rw [skipBlanks] at h; rw [h, Option.some_or])
  rw [List.getLast?_reverse] at hlast
  exact isBlank_of_mem_head?_skipBlanks hlast

/-- Trimmed characters end with no blank. -/
theorem isBlank_of_mem_getLast?_trimChars {c : Char} (h : c ∈ (trimChars cs).getLast?) :
    isBlank c = false := by
  rw [trimChars, List.getLast?_reverse] at h
  exact isBlank_of_mem_head?_skipBlanks h

/-- What is left was there before. -/
theorem mem_of_mem_trimChars {c : Char} (h : c ∈ trimChars cs) : c ∈ cs := by
  rw [trimChars, List.mem_reverse] at h
  have hskipped : c ∈ (skipBlanks cs).reverse := (List.dropWhile_sublist isBlank).mem h
  exact (List.dropWhile_sublist isBlank).mem (List.mem_reverse.1 hskipped)

/-- Nothing is left where there are only blanks. -/
theorem trimChars_eq_nil_iff : trimChars cs = [] ↔ ∀ c ∈ cs, isBlank c = true := by
  constructor
  · intro h
    have hrest : ∀ c ∈ skipBlanks cs, isBlank c = true := by
      rw [trimChars, List.reverse_eq_nil_iff, skipBlanks, List.dropWhile_eq_nil_iff] at h
      exact fun c hc => h c (List.mem_reverse.2 hc)
    -- The rest starts with no blank, so there is no rest.
    have hnil : skipBlanks cs = [] := by
      cases hcases : skipBlanks cs with
      | nil => rfl
      | cons c rest =>
        have hfirst : c ∈ (skipBlanks cs).head? := by
          rw [hcases]
          rfl
        have hblank := hrest c (hcases ▸ List.mem_cons_self)
        rw [isBlank_of_mem_head?_skipBlanks hfirst] at hblank
        cases hblank
    exact List.dropWhile_eq_nil_iff.1 hnil
  · intro h
    have hnil : skipBlanks cs = [] := List.dropWhile_eq_nil_iff.2 h
    rw [trimChars, hnil]
    rfl

/-- Blanks in front make no difference to what is left. -/
theorem trimChars_blanks_append {blanks : List Char} (h : ∀ c ∈ blanks, isBlank c = true) :
    trimChars (blanks ++ cs) = trimChars cs := by
  have hskip : skipBlanks (blanks ++ cs) = skipBlanks cs := List.dropWhile_append_of_pos h
  rw [trimChars, hskip, trimChars]

/-- Blanks at the end make no difference to what is left. -/
theorem trimChars_append_blanks {blanks : List Char} (h : ∀ c ∈ blanks, isBlank c = true) :
    trimChars (cs ++ blanks) = trimChars cs := by
  by_cases hall : ∀ c ∈ cs, isBlank c = true
  · rw [trimChars_eq_nil_iff.2 hall, trimChars_eq_nil_iff.2 (List.forall_mem_append.2 ⟨hall, h⟩)]
  · have hrest : skipBlanks cs ≠ [] := fun hnil => hall (List.dropWhile_eq_nil_iff.1 hnil)
    have hskip : skipBlanks (cs ++ blanks) = skipBlanks cs ++ blanks := by
      rw [skipBlanks, List.dropWhile_append, if_neg]
      · rfl
      · simpa [skipBlanks] using hrest
    have hreverse : ∀ c ∈ blanks.reverse, isBlank c = true :=
      fun c hc => h c (List.mem_reverse.1 hc)
    have hend :
        skipBlanks (skipBlanks cs ++ blanks).reverse = skipBlanks (skipBlanks cs).reverse := by
      rw [List.reverse_append]
      exact List.dropWhile_append_of_pos hreverse
    rw [trimChars, hskip, hend, trimChars]

/-- The blanks at the end can be told apart from what stands before them. -/
theorem exists_append_blanks (cs : List Char) :
    ∃ kept blanks, cs = kept ++ blanks ∧ (∀ c ∈ kept.getLast?, isBlank c = false) ∧
      ∀ c ∈ blanks, isBlank c = true := by
  refine ⟨(skipBlanks cs.reverse).reverse, (cs.reverse.takeWhile isBlank).reverse, ?_, ?_, ?_⟩
  · rw [← List.reverse_append, skipBlanks, List.takeWhile_append_dropWhile, List.reverse_reverse]
  · intro c hc
    rw [List.getLast?_reverse] at hc
    exact isBlank_of_mem_head?_skipBlanks hc
  · exact fun c hc => List.mem_takeWhile_imp (List.mem_reverse.1 hc)

/-- A text is blank where nothing of it is left. -/
theorem isBlankText_iff_trimChars {s : String} :
    isBlankText s = true ↔ trimChars s.toList = [] := by
  rw [trimChars_eq_nil_iff]
  exact List.all_eq_true

/-- A text is blank where trimming leaves the empty text. -/
theorem isBlankText_iff_trim {s : String} : isBlankText s = true ↔ trim s = "" := by
  rw [isBlankText_iff_trimChars, trim, String.ofList_eq_empty_iff]

/-- A text is not blank if one of its characters is not. -/
theorem isBlankText_eq_false_of_mem {s : String} {c : Char} (hmem : c ∈ s.toList)
    (hc : isBlank c = false) : isBlankText s = false :=
  List.all_eq_false.2 ⟨c, hmem, by simp [hc]⟩

end Text
end LooseRecords
