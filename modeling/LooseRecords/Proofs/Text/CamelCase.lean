import LooseRecords.Proofs.Text.Digits
import LooseRecords.Proofs.Text.Lowercase
import LooseRecords.Text.CamelCase

/-!
# Of what camel case is made

The words of a text are made of word characters, and camel case writes the small and capital forms
of these.  So where a table has no word character and forms do not lead into it, no text in lower
camel case has a character of the table (`contains_of_mem_lowerCamelCase`).  Blanks are such a
table.
-/

namespace LooseRecords
namespace Text

/-! ### Words -/

/-- Runs are made of word characters. -/
theorem isWordCharacter_of_mem_runs {cs run : List Char} (h : run ∈ runs cs) :
    ∀ c ∈ run, isWordCharacter c = true := by
  induction cs generalizing run with
  | nil =>
    rw [List.mem_singleton.1 h]
    simp
  | cons c rest ih =>
    rw [runs] at h
    split at h
    · next hc =>
      -- A word character is put in front of the first run of the rest.
      cases hruns : runs rest with
      | nil =>
        rw [hruns] at h
        rw [List.mem_singleton.1 h]
        simpa using hc
      | cons first others =>
        rw [hruns] at h ih
        rcases List.mem_cons.1 h with rfl | h
        · exact List.forall_mem_cons.2 ⟨hc, ih List.mem_cons_self⟩
        · exact ih (List.mem_cons_of_mem _ h)
    · rcases List.mem_cons.1 h with rfl | h
      · simp
      · exact ih h

/-- The words of a run are made of its characters. -/
theorem mem_of_mem_wordsFrom {current : Option WordCase} {word cs w : List Char} {c : Char}
    (h : w ∈ wordsFrom current word cs) (hc : c ∈ w) : c ∈ word ∨ c ∈ cs := by
  fun_induction wordsFrom current word cs with
  | case1 => cases h
  | case2 current word d =>
    rw [List.mem_singleton.1 h, List.mem_reverse] at hc
    simpa [or_comm] using hc
  | case3 current word d next rest extended hends ih =>
    rcases List.mem_cons.1 h with rfl | h
    · rcases List.mem_cons.1 (List.mem_reverse.1 hc) with rfl | hc
      · exact .inr List.mem_cons_self
      · exact .inl hc
    · rcases ih h with hc | hc
      · cases hc
      · exact .inr (List.mem_cons_of_mem _ hc)
  | case4 current word d next rest extended hends hbefore ih =>
    rcases List.mem_cons.1 h with rfl | h
    · exact .inl (List.mem_reverse.1 hc)
    · rcases ih h with hc | hc
      · rw [List.mem_singleton.1 hc]
        exact .inr List.mem_cons_self
      · exact .inr (List.mem_cons_of_mem _ hc)
  | case5 current word d next rest extended hends hbefore ih =>
    rcases ih h with hc | hc
    · rcases List.mem_cons.1 hc with rfl | hc
      · exact .inr List.mem_cons_self
      · exact .inl hc
    · exact .inr (List.mem_cons_of_mem _ hc)

/-- The words of a text are made of word characters. -/
theorem isWordCharacter_of_mem_words {cs word : List Char} {c : Char} (h : word ∈ words cs)
    (hc : c ∈ word) : isWordCharacter c = true := by
  obtain ⟨run, hrun, hword⟩ := List.mem_flatMap.1 h
  rcases mem_of_mem_wordsFrom hword hc with hc | hc
  · cases hc
  · exact isWordCharacter_of_mem_runs hrun c hc

/-- Digits are word characters. -/
theorem isWordCharacter_of_isDigit {c : Char} (h : Digits.isDigit c = true) :
    isWordCharacter c = true := by
  rw [Digits.isDigit_iff] at h
  unfold isWordCharacter wordCharacters
  rw [CodeRanges.contains, if_neg (by omega), if_pos (by omega)]

/-! ### Written words -/

section Written

variable {table : CodeRanges} {word : List Char}

/-- Word characters are outside a table that is apart from theirs. -/
theorem contains_of_isWordCharacter (hapart : wordCharacters.runs.apart table.runs = true)
    {c : Char} (h : isWordCharacter c = true) : table.contains c.toNat = false := by
  obtain ⟨run, hrun, hmeets⟩ := CodeRanges.exists_run_of_contains h
  rw [← CodeRanges.contains_runs]
  exact CodeRuns.contains_eq_false_of_apart hapart hrun hmeets

/-- A word outside a table is outside it in small letters. -/
theorem contains_of_mem_smallWord (htable : ClosedToForms table)
    (hword : ∀ c ∈ word, table.contains c.toNat = false) :
    ∀ d ∈ smallWord word, table.contains d.toNat = false := by
  fun_induction smallWord word with
  | case1 => simp
  | case2 =>
    intro d hd
    rw [List.mem_singleton.1 hd]
    exact htable.others _ (by simp)
  | case3 c hsigma =>
    exact fun d hd => htable.contains_of_mem_smallForm hd (hword c List.mem_cons_self)
  | case4 c rest hrest ih =>
    obtain ⟨hc, hothers⟩ := List.forall_mem_cons.1 hword
    intro d hd
    rcases List.mem_append.1 hd with hd | hd
    · exact htable.contains_of_mem_smallForm hd hc
    · exact ih hothers d hd

/-- A word outside a table is outside it with a capital in front. -/
theorem contains_of_mem_capitalizedWord (htable : ClosedToForms table)
    (hword : ∀ c ∈ word, table.contains c.toNat = false) :
    ∀ d ∈ capitalizedWord word, table.contains d.toNat = false := by
  cases word with
  | nil => simp [capitalizedWord]
  | cons c rest =>
    obtain ⟨hc, hrest⟩ := List.forall_mem_cons.1 hword
    intro d hd
    rcases List.mem_append.1 hd with hd | hd
    · exact htable.contains_of_mem_capitalForm hd hc
    · exact contains_of_mem_smallWord htable hrest d hd

/-- A text in lower camel case has no character of a table that is apart from word characters and
that no form leads into. -/
theorem contains_of_mem_lowerCamelCase (hapart : wordCharacters.runs.apart table.runs = true)
    (htable : ClosedToForms table) {s : String} :
    ∀ d ∈ (lowerCamelCase s).toList, table.contains d.toNat = false := by
  have hwords : ∀ word ∈ words s.toList, ∀ c ∈ word, table.contains c.toNat = false :=
    fun _ hword _ hc => contains_of_isWordCharacter hapart (isWordCharacter_of_mem_words hword hc)
  unfold lowerCamelCase
  cases hcases : words s.toList with
  | nil => simp
  | cons first others =>
    rw [hcases] at hwords
    obtain ⟨hfirst, hothers⟩ := List.forall_mem_cons.1 hwords
    intro d hd
    rw [String.toList_ofList] at hd
    rcases List.mem_append.1 hd with hd | hd
    · exact contains_of_mem_smallWord htable hfirst d hd
    · obtain ⟨word, hword, hd⟩ := List.mem_flatMap.1 hd
      exact contains_of_mem_capitalizedWord htable (hothers word hword) d hd

end Written

/-- No word character is blank. -/
theorem wordCharacters_apart_blankCharacters :
    wordCharacters.runs.apart blankCharacters.runs = true := by
  decide +kernel

end Text
end LooseRecords
