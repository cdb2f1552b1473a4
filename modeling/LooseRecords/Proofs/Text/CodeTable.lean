import LooseRecords.Text.CodeTable

/-!
# What tables of code points say

A table is recorded as runs, and a question about all code points of a table is one about its runs:
no code point of a run is found in a table that is clear of the run (`CodeRuns.clearOf`), and a
table of shifts moves code points into the images of its runs.  Where the runs that are moved are
clear of the images, shifting twice is shifting once (`CodeShifts.apply_apply`).
-/

namespace LooseRecords
namespace Text

/-! ### Runs -/

namespace CodeRuns

/-- Whether a run meets a code point. -/
def Meets (run : Nat × Nat × Nat) (n : Nat) : Prop :=
  run.1 ≤ n ∧ n ≤ run.2.1 ∧ (n - run.1) % run.2.2 = 0

/-- Whether no code point of a run is found in a table: the run does not overlap with those of the
table, or one of two that do has steps of two and the other, of steps of two as well or of one code
point, falls between them.  As in a look-up, runs of the table that begin beyond the run are not
looked at. -/
def clearOf (first last step : Nat) : CodeRuns → Bool
  | [] => true
  | (first', last', step') :: rest =>
      Nat.blt last first' ||
        ((Nat.blt last' first ||
            (Nat.beq step 2 || Nat.beq first last) && Nat.beq step' 2 && first % 2 != first' % 2) &&
          clearOf first last step rest)

/-- Whether no code point of the first table is found in the second. -/
def apart (runs others : CodeRuns) : Bool :=
  runs.all fun (first, last, step) => clearOf first last step others

/-- A code point of a run is not found in a table that is clear of the run. -/
theorem contains_eq_false_of_clearOf {first last step : Nat} {others : CodeRuns}
    (h : clearOf first last step others = true) {n : Nat} (hn : Meets (first, last, step) n) :
    others.contains n = false := by
  obtain ⟨hfirst, hlast, hstep⟩ := hn
  dsimp only at hfirst hlast hstep
  induction others with
  | nil => rfl
  | cons other rest ih =>
    obtain ⟨first', last', step'⟩ := other
    simp only [clearOf, Bool.or_eq_true, Bool.and_eq_true, bne_iff_ne, Nat.blt_eq, Nat.beq_eq] at h
    rw [contains]
    by_cases hbefore : n < first'
    · rw [if_pos hbefore]
    · rw [if_neg hbefore]
      rcases h with hbelow | ⟨hpair, hrest⟩
      · omega
      · have hmisses : ¬(n ≤ last' ∧ (n - first') % step' = 0) := by
          rintro ⟨hlast', hstep'⟩
          rcases hpair with habove | ⟨⟨hkind, rfl⟩, hparity⟩
          · omega
          · rcases hkind with rfl | rfl
            · omega
            · omega
        rw [if_neg hmisses]
        exact ih hrest

/-- A code point that a run of a table meets is not found in a table apart from it. -/
theorem contains_eq_false_of_apart {runs others : CodeRuns} (h : runs.apart others = true)
    {run : Nat × Nat × Nat} (hrun : run ∈ runs) {n : Nat} (hn : Meets run n) :
    others.contains n = false :=
  contains_eq_false_of_clearOf (List.all_eq_true.1 h _ hrun) hn

end CodeRuns

/-- Ranges as runs of step one. -/
def CodeRanges.runs (ranges : CodeRanges) : CodeRuns :=
  ranges.map fun (first, last) => (first, last, 1)

/-- The code points of a table of ranges are met by its runs. -/
theorem CodeRanges.exists_run_of_contains {ranges : CodeRanges} {n : Nat}
    (h : ranges.contains n = true) : ∃ run ∈ ranges.runs, CodeRuns.Meets run n := by
  induction ranges with
  | nil => cases h
  | cons range rest ih =>
    obtain ⟨first, last⟩ := range
    rw [contains] at h
    by_cases hbefore : n < first
    · rw [if_pos hbefore] at h
      cases h
    · rw [if_neg hbefore] at h
      by_cases hin : n ≤ last
      · exact ⟨(first, last, 1), List.mem_cons_self, Nat.le_of_not_lt hbefore, hin, Nat.mod_one _⟩
      · rw [if_neg hin] at h
        obtain ⟨run, hrun, hn⟩ := ih h
        exact ⟨run, List.mem_cons_of_mem _ hrun, hn⟩

/-- A table of ranges finds what its runs find. -/
theorem CodeRanges.contains_runs (ranges : CodeRanges) (n : Nat) :
    ranges.runs.contains n = ranges.contains n := by
  induction ranges with
  | nil => rfl
  | cons range rest ih =>
    obtain ⟨first, last⟩ := range
    show CodeRuns.contains ((first, last, 1) :: CodeRanges.runs rest) n = _
    rw [contains, CodeRuns.contains, ih, Nat.mod_one]
    simp only [and_true]

/-! ### Shifts -/

namespace CodeShifts

/-- The runs that are moved. -/
def sources (shifts : CodeShifts) : CodeRuns :=
  shifts.map fun (first, last, step, _) => (first, last, step)

/-- Whether code points are moved to code points outside a table only. -/
def landsOutside (shifts : CodeShifts) (others : CodeRuns) : Bool :=
  shifts.all fun (first, last, step, shift) => decide (0 ≤ (first : Int) + shift) &&
    CodeRuns.clearOf (first + shift).toNat (last + shift).toNat step others

/-- A code point is kept, or moved with the run that meets it. -/
theorem apply_eq_self_or (shifts : CodeShifts) (n : Nat) :
    shifts.apply n = n ∨ ∃ run ∈ shifts, CodeRuns.Meets (run.1, run.2.1, run.2.2.1) n ∧
      shifts.apply n = (n + run.2.2.2).toNat := by
  induction shifts with
  | nil => exact .inl rfl
  | cons run rest ih =>
    obtain ⟨first, last, step, shift⟩ := run
    rw [apply]
    by_cases hbefore : n < first
    · rw [if_pos hbefore]
      exact .inl rfl
    · rw [if_neg hbefore]
      by_cases hin : n ≤ last ∧ (n - first) % step = 0
      · rw [if_pos hin]
        exact .inr ⟨_, List.mem_cons_self, ⟨Nat.le_of_not_lt hbefore, hin⟩, rfl⟩
      · rw [if_neg hin]
        rcases ih with hkept | ⟨run, hrun, hn⟩
        · exact .inl hkept
        · exact .inr ⟨run, List.mem_cons_of_mem _ hrun, hn⟩

/-- A code point that is not among those that are moved is kept. -/
theorem apply_eq_self {shifts : CodeShifts} {n : Nat} (h : shifts.sources.contains n = false) :
    shifts.apply n = n := by
  induction shifts with
  | nil => rfl
  | cons run rest ih =>
    obtain ⟨first, last, step, shift⟩ := run
    change CodeRuns.contains ((first, last, step) :: sources rest) n = false at h
    rw [CodeRuns.contains] at h
    rw [apply]
    by_cases hbefore : n < first
    · rw [if_pos hbefore]
    · rw [if_neg hbefore] at h ⊢
      by_cases hin : n ≤ last ∧ (n - first) % step = 0
      · rw [if_pos hin] at h
        cases h
      · rw [if_neg hin] at h ⊢
        exact ih h

/-- A code point is kept, or moved to one outside a table that is clear of all images. -/
theorem apply_eq_self_or_contains_eq_false {shifts : CodeShifts} {others : CodeRuns}
    (h : shifts.landsOutside others = true) (n : Nat) :
    shifts.apply n = n ∨ others.contains (shifts.apply n) = false := by
  rcases shifts.apply_eq_self_or n with hkept | ⟨run, hrun, ⟨hfirst, hlast, hstep⟩, happly⟩
  · exact .inl hkept
  · obtain ⟨first, last, step, shift⟩ := run
    have hcheck := List.all_eq_true.1 h _ hrun
    simp only [Bool.and_eq_true, decide_eq_true_eq] at hcheck
    obtain ⟨hstart, hclear⟩ := hcheck
    have himage : CodeRuns.Meets ((first + shift).toNat, (last + shift).toNat, step)
        (n + shift).toNat := by
      have hdistance : (n + shift).toNat - (first + shift).toNat = n - first := by
        dsimp only at hfirst
        omega
      refine ⟨?_, ?_, hdistance ▸ hstep⟩
      · exact Int.toNat_le_toNat (Int.add_le_add_right (Int.ofNat_le.2 hfirst) shift)
      · exact Int.toNat_le_toNat (Int.add_le_add_right (Int.ofNat_le.2 hlast) shift)
    rw [happly]
    exact .inr (CodeRuns.contains_eq_false_of_clearOf hclear himage)

/-- Where no image has a code point that is moved, nothing is moved twice. -/
theorem apply_apply {shifts : CodeShifts} (h : shifts.landsOutside shifts.sources = true)
    (n : Nat) : shifts.apply (shifts.apply n) = shifts.apply n := by
  rcases apply_eq_self_or_contains_eq_false h n with hkept | houtside
  · rw [hkept, hkept]
  · exact apply_eq_self houtside

end CodeShifts
end Text
end LooseRecords
