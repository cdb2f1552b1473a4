import LooseRecords.Naming
import LooseRecords.Proofs.Text.CamelCase
import LooseRecords.Proofs.Text.Digits

/-!
# Names are fresh and not blank

A numbered name differs from every name with another number, so among one more numbers than there
are taken names one gives a free name.  The search for it therefore stops at a free name, and at the
first one, which makes `Naming.allocate` fresh.  Names are made of the small and capital forms of word
characters and of digits, so they have no character of a table that is apart from these
(`contains_of_mem_allocate`).  In particular no name that is allocated is blank.
-/

namespace LooseRecords
namespace Naming

/-- Different numbers give different names. -/
theorem numbered_injective {base : String} {j k : Nat} (h : numbered base j = numbered base k) :
    j = k := by
  have htext : (base ++ Digits.text j).toList = (base ++ Digits.text k).toList := by
    unfold numbered at h
    rw [h]
  rw [String.toList_append, String.toList_append, Digits.toList_text, Digits.toList_text] at htext
  exact Digits.decimal_injective (List.append_cancel_left htext)

/-- Not all of more numbered names than there are taken names can be taken. -/
theorem exists_numbered_not_mem (taken : List String) (base : String) (k : Nat) :
    ∃ i, i < taken.length + 1 ∧ numbered base (k + i) ∉ taken := by
  apply Classical.byContradiction
  intro hnone
  have hall : ∀ i, i < taken.length + 1 → numbered base (k + i) ∈ taken := by
    intro i hi
    apply Classical.byContradiction
    exact fun hfree => hnone ⟨i, hi, hfree⟩
  let names := (List.range (taken.length + 1)).map fun i => numbered base (k + i)
  have hnodup : names.Nodup := by
    refine List.Pairwise.map _ ?_ List.nodup_range
    intro i j hij h
    have := numbered_injective h
    omega
  have hsubset : names ⊆ taken := by
    intro name hname
    obtain ⟨i, hi, rfl⟩ := List.mem_map.1 hname
    exact hall i (List.mem_range.1 hi)
  have hlength := hnodup.length_le_of_subset hsubset
  rw [List.length_map, List.length_range] at hlength
  omega

/-- The search stops at the first free name, if there is one within its reach. -/
theorem firstFree_spec {taken : List String} {base : String} (fuel : Nat) : ∀ (k : Nat),
    (∃ i, i < fuel ∧ numbered base (k + i) ∉ taken) →
      ∃ i, i < fuel ∧ firstFree taken base fuel k = numbered base (k + i) ∧
        numbered base (k + i) ∉ taken ∧ ∀ j, j < i → numbered base (k + j) ∈ taken := by
  induction fuel with
  | zero =>
    rintro k ⟨i, hi, -⟩
    exact absurd hi (Nat.not_lt_zero i)
  | succ fuel ih =>
    rintro k ⟨i, hi, hfree⟩
    rw [firstFree]
    split
    · next htaken =>
      cases i with
      | zero => exact absurd htaken hfree
      | succ i =>
        have hnext : ∃ i, i < fuel ∧ numbered base (k + 1 + i) ∉ taken :=
          ⟨i, Nat.lt_of_succ_lt_succ hi, by rwa [Nat.add_assoc, Nat.add_comm 1 i]⟩
        obtain ⟨m, hm, hname, hmfree, hleast⟩ := ih (k + 1) hnext
        refine ⟨m + 1, Nat.succ_lt_succ hm, ?_, ?_, ?_⟩
        · rw [hname, Nat.add_assoc, Nat.add_comm 1 m]
        · rwa [Nat.add_comm m 1, ← Nat.add_assoc]
        · intro j hj
          cases j with
          | zero => exact htaken
          | succ j =>
            rw [Nat.add_comm j 1, ← Nat.add_assoc]
            exact hleast j (Nat.lt_of_succ_lt_succ hj)
    · next hfree =>
      exact ⟨0, Nat.succ_pos fuel, rfl, hfree, fun j hj => absurd hj (Nat.not_lt_zero j)⟩

/-- The name that is allocated is the suggested one, or where that is taken the first free one with
a number. -/
theorem allocate_spec (taken : List String) (display : String) (position : Nat) :
    let name := base display position
    (name ∉ taken ∧ allocate taken display position = name) ∨
      name ∈ taken ∧ ∃ i, allocate taken display position = numbered name (2 + i) ∧
        numbered name (2 + i) ∉ taken ∧ ∀ j, j < i → numbered name (2 + j) ∈ taken := by
  intro name
  unfold allocate
  by_cases htaken : name ∈ taken
  · obtain ⟨i, -, hname, hfree, hleast⟩ :=
      firstFree_spec _ 2 (exists_numbered_not_mem taken name 2)
    exact .inr ⟨htaken, i, (if_pos htaken).trans hname, hfree, hleast⟩
  · exact .inl ⟨htaken, if_neg htaken⟩

/-- The name that is allocated is not taken. -/
theorem allocate_not_mem (taken : List String) (display : String) (position : Nat) :
    allocate taken display position ∉ taken := by
  rcases allocate_spec taken display position with ⟨hfree, hname⟩ | ⟨-, i, hname, hfree, -⟩
  · rwa [hname]
  · rwa [hname]

/-! ### Characters -/

/-- The name that is allocated is the suggested one with digits after it, if any. -/
theorem exists_allocate_eq (taken : List String) (display : String) (position : Nat) :
    ∃ digits, (∀ c ∈ digits, Digits.isDigit c = true) ∧
      (allocate taken display position).toList = (base display position).toList ++ digits := by
  rcases allocate_spec taken display position with ⟨-, hname⟩ | ⟨-, i, hname, -⟩
  · exact ⟨[], by simp, by rw [hname, List.append_nil]⟩
  · refine ⟨Digits.decimal (2 + i), fun c hc => Digits.isDigit_of_mem_decimal hc, ?_⟩
    rw [hname, numbered, String.toList_append, Digits.toList_text]

theorem base_ne_nil (display : String) (position : Nat) : (base display position).toList ≠ [] := by
  unfold base
  dsimp only
  split
  · rw [String.toList_append, Digits.toList_text]
    exact List.append_ne_nil_of_right_ne_nil _ (Digits.decimal_ne_nil _)
  · next hname => exact fun hnil => hname (String.toList_injective (hnil.trans rfl))

section Table

variable {table : Text.CodeRanges}

/-- The name that a display name suggests has no character of a table that is apart from word
characters and that no form leads into. -/
theorem contains_of_mem_base (hapart : Text.wordCharacters.runs.apart table.runs = true)
    (htable : Text.ClosedToForms table) {display : String} {position : Nat} :
    ∀ c ∈ (base display position).toList, table.contains c.toNat = false := by
  have hword : ∀ c, Text.isWordCharacter c = true → table.contains c.toNat = false :=
    fun _ => Text.contains_of_isWordCharacter hapart
  unfold base
  dsimp only
  split
  · have hfield : ∀ c ∈ "field".toList, Text.isWordCharacter c = true :=
      List.all_eq_true.1 (by decide +kernel)
    intro c hc
    rw [String.toList_append, Digits.toList_text] at hc
    rcases List.mem_append.1 hc with hc | hc
    · exact hword c (hfield c hc)
    · exact hword c (Text.isWordCharacter_of_isDigit (Digits.isDigit_of_mem_decimal hc))
  · exact Text.contains_of_mem_lowerCamelCase hapart htable

theorem contains_of_mem_allocate (hapart : Text.wordCharacters.runs.apart table.runs = true)
    (htable : Text.ClosedToForms table) {taken : List String} {display : String}
    {position : Nat} :
    ∀ c ∈ (allocate taken display position).toList, table.contains c.toNat = false := by
  obtain ⟨digits, hdigits, hname⟩ := exists_allocate_eq taken display position
  rw [hname]
  intro c hc
  rcases List.mem_append.1 hc with hc | hc
  · exact contains_of_mem_base hapart htable c hc
  · exact Text.contains_of_isWordCharacter hapart (Text.isWordCharacter_of_isDigit (hdigits c hc))

end Table

theorem allocate_ne_nil (taken : List String) (display : String) (position : Nat) :
    (allocate taken display position).toList ≠ [] := by
  obtain ⟨digits, -, hname⟩ := exists_allocate_eq taken display position
  rw [hname]
  exact List.append_ne_nil_of_left_ne_nil (base_ne_nil display position) _

/-- The name that is allocated has no blank. -/
theorem isBlank_of_mem_allocate {taken : List String} {display : String} {position : Nat} :
    ∀ c ∈ (allocate taken display position).toList, Text.isBlank c = false :=
  contains_of_mem_allocate Text.wordCharacters_apart_blankCharacters
    Text.closedToForms_blankCharacters

/-- The name that is allocated is not blank. -/
theorem isBlankText_allocate (taken : List String) (display : String) (position : Nat) :
    Text.isBlankText (allocate taken display position) = false := by
  obtain ⟨c, rest, hcs⟩ := List.exists_cons_of_ne_nil (allocate_ne_nil taken display position)
  have hc : c ∈ (allocate taken display position).toList := hcs ▸ List.mem_cons_self
  exact Text.isBlankText_eq_false_of_mem hc (isBlank_of_mem_allocate c hc)

end Naming
end LooseRecords
