import LooseRecords.Proofs.Naming
import Mathlib.Data.Finset.Card
import Mathlib.Logic.Function.Iterate

/-!
# The search for a free name

A name is found by trying: first the name that the display name suggests, then the same name with a
two, a three and so on, until one is not among the names that are taken.  Nothing in the search says
when it ends.  It ends because the candidates differ from each other, so a set of names cannot hold
more of them than it has members (`Naming.exists_candidate_notMem`).  As long as it goes on, every
candidate so far was taken and the set is what it was (`Naming.Search.iterate_step_of_mem`), so the
candidate at which it ends is the first free one.
-/

namespace LooseRecords
namespace Naming

/-! ### Candidates -/

/-- The names that are tried, in their order. -/
def candidate (base : String) : (i : Nat) → String
  | 0 => base
  | i + 1 => numbered base (i + 2)

/-- A name with a number is longer than the name. -/
theorem numbered_ne_self (base : String) (k : Nat) : numbered base k ≠ base := by
  intro h
  have htext : base.toList ++ Digits.decimal k = base.toList := by
    rw [← Digits.toList_text, ← String.toList_append]
    exact congrArg String.toList h
  exact Digits.decimal_ne_nil k (List.append_right_eq_self.1 htext)

theorem candidate_injective (base : String) : Function.Injective (candidate base) := by
  intro i j h
  cases i with
  | zero =>
    cases j with
    | zero => rfl
    | succ j => exact absurd h.symm (numbered_ne_self base (j + 2))
  | succ i =>
    cases j with
    | zero => exact absurd h (numbered_ne_self base (i + 2))
    | succ j =>
      have hnumber : i + 2 = j + 2 := numbered_injective h
      rw [Nat.add_right_cancel hnumber]

/-- Of one more candidates than there are names in a set one is not in it. -/
theorem exists_candidate_notMem (used : Finset String) (base : String) :
    ∃ i, i ≤ used.card ∧ candidate base i ∉ used := by
  -- Distinct candidates, one more than there are names in the set, do not all fit into it.
  have hcard : used.card < ((Finset.range (used.card + 1)).image (candidate base)).card := by
    rw [Finset.card_image_of_injective _ (candidate_injective base), Finset.card_range]
    exact Nat.lt_succ_self used.card
  obtain ⟨name, hname, hfree⟩ := Finset.exists_mem_notMem_of_card_lt_card hcard
  obtain ⟨i, hi, rfl⟩ := Finset.mem_image.1 hname
  exact ⟨i, Nat.le_of_lt_succ (Finset.mem_range.1 hi), hfree⟩

/-- So there is a first candidate that is not in the set, and it comes up that soon. -/
theorem exists_first_candidate (used : Finset String) (base : String) :
    ∃ i ≤ used.card, candidate base i ∉ used ∧ ∀ j < i, candidate base j ∈ used := by
  obtain ⟨bound, hbound, hfree⟩ := exists_candidate_notMem used base
  have hexists : ∃ i, candidate base i ∉ used := ⟨bound, hfree⟩
  refine ⟨Nat.find hexists, (Nat.find_min' hexists hfree).trans hbound, Nat.find_spec hexists, ?_⟩
  intro j hj
  exact Decidable.of_not_not (Nat.find_min hexists hj)

/-! ### Trying -/

/-- How far the search for a name has come. -/
inductive Search where
  /-- So many candidates were tried without success, and these names are taken. -/
  | trying (tried : Nat) (taken : Finset String)
  /-- A name was found, and these names are taken now. -/
  | found (name : String) (taken : Finset String)

namespace Search

/-- One try: the next candidate is put among the names that are taken.  If it was not there, it is
the name, and else the search goes on. -/
def step (base : String) : Search → Search
  | .trying tried taken =>
      let name := candidate base tried
      if name ∈ taken then .trying (tried + 1) (insert name taken)
      else .found name (insert name taken)
  | .found name taken => .found name taken

variable {used : Finset String} {base : String} {n : Nat}

/-- Candidates that are taken are tried without success, and the set stays as it is. -/
theorem iterate_step_of_mem (h : ∀ j < n, candidate base j ∈ used) :
    (step base)^[n] (.trying 0 used) = .trying n used := by
  induction n with
  | zero => rfl
  | succ n ih =>
    have hlast : candidate base n ∈ used := h n (Nat.lt_succ_self n)
    have hbefore : ∀ j < n, candidate base j ∈ used := fun j hj => h j (Nat.lt_succ_of_lt hj)
    rw [Function.iterate_succ_apply', ih hbefore, step, if_pos hlast, Finset.insert_eq_of_mem hlast]

/-- The first candidate that is not taken is the name, and nothing else is added to the set. -/
theorem iterate_step_of_notMem (hfree : candidate base n ∉ used)
    (hfirst : ∀ j < n, candidate base j ∈ used) :
    (step base)^[n + 1] (.trying 0 used) =
      .found (candidate base n) (insert (candidate base n) used) := by
  rw [Function.iterate_succ_apply', iterate_step_of_mem hfirst, step, if_neg hfree]

end Search

/-! ### The name that is found -/

/-- The name that is allocated is the first candidate that is not taken. -/
theorem allocate_eq_candidate {taken : List String} {display : String} {position i : Nat}
    (hfree : candidate (base display position) i ∉ taken)
    (hfirst : ∀ j < i, candidate (base display position) j ∈ taken) :
    allocate taken display position = candidate (base display position) i := by
  rcases allocate_spec taken display position with ⟨hbase, hname⟩ | ⟨hbase, m, hname, hm, hleast⟩
  · cases i with
    | zero => exact hname
    | succ i => exact absurd (hfirst 0 (Nat.succ_pos i)) hbase
  · cases i with
    | zero => exact absurd hbase hfree
    | succ i =>
      have hcandidate (j : Nat) :
          candidate (base display position) (j + 1) = numbered (base display position) (2 + j) := by
        rw [candidate, Nat.add_comm]
      rw [hcandidate] at hfree ⊢
      rw [hname]
      rcases Nat.lt_trichotomy m i with hlt | rfl | hlt
      · exact absurd (hcandidate m ▸ hfirst (m + 1) (Nat.succ_lt_succ hlt)) hm
      · rfl
      · exact absurd (hleast i hlt) hfree

/-- The search for a name ends, after no more tries than one for each name that is taken and one
more.  Until then nothing changes.  It ends with the name that is allocated, which was not taken,
and adds this name to those that are taken and no other.  The name is the lower camel case of the
display name, or a name made of the position where that is empty, if it was free; else it is this
name with the least number from two on with which it was free. -/
theorem allocate_least_free (taken : List String) (display : String) (position : Nat) :
    allocate taken display position ∉ taken.toFinset ∧
    let used := taken.toFinset
    let camel := Text.lowerCamelCase display
    let base := if camel = "" then "field" ++ Digits.text (position + 1) else camel
    let name := allocate taken display position
    (∃ tries ≤ used.card + 1,
      (Search.step base)^[tries] (.trying 0 used) = .found name (insert name used) ∧
        ∀ n < tries, (Search.step base)^[n] (.trying 0 used) = .trying n used) ∧
    (base ∉ used ∧ name = base ∨
      base ∈ used ∧ ∃ k ≥ 2, name = base ++ Digits.text k ∧
        ∀ j ≥ 2, j < k → base ++ Digits.text j ∈ used) := by
  have hused {s : String} : s ∈ taken.toFinset ↔ s ∈ taken := List.mem_toFinset
  refine ⟨allocate_not_mem taken display position ∘ hused.1, ?_⟩
  intro used camel base name
  constructor
  · obtain ⟨i, hi, hfree, hfirst⟩ := exists_first_candidate used base
    have hname : name = candidate base i :=
      allocate_eq_candidate (hfree ∘ hused.2) fun j hj => hused.1 (hfirst j hj)
    refine ⟨i + 1, Nat.succ_le_succ hi, ?_, ?_⟩
    · rw [hname]
      exact Search.iterate_step_of_notMem hfree hfirst
    · intro n hn
      exact Search.iterate_step_of_mem fun j hj =>
        hfirst j (Nat.lt_of_lt_of_le hj (Nat.le_of_lt_succ hn))
  · rcases allocate_spec taken display position with ⟨hfree, hname⟩ | ⟨hmem, m, hname, -, hleast⟩
    · exact .inl ⟨hfree ∘ hused.1, hname⟩
    · refine .inr ⟨hused.2 hmem, 2 + m, Nat.le_add_right 2 m, hname, fun j hj hlt => ?_⟩
      obtain ⟨j, rfl⟩ := Nat.exists_eq_add_of_le hj
      exact hused.2 (hleast j (Nat.lt_of_add_lt_add_left hlt))

/-- A number is free between those that are taken, and one name is listed twice among these. -/
theorem allocate_least_free_gap :
    let taken := ["a4", "a2", "a", "a2"]
    allocate taken "% A %" 6 = "a3" ∧ ∃ tries ≤ 4,
      (Search.step "a")^[tries] (.trying 0 taken.toFinset) =
        .found "a3" (insert "a3" taken.toFinset) := by
  intro taken
  have hname : allocate taken "% A %" 6 = "a3" := by decide +kernel
  have hbase : (if Text.lowerCamelCase "% A %" = "" then "field" ++ Digits.text (6 + 1)
      else Text.lowerCamelCase "% A %") = "a" := by decide +kernel
  have hcard : taken.toFinset.card = 3 := by decide +kernel
  obtain ⟨-, ⟨tries, htries, hfound, -⟩, -⟩ := allocate_least_free taken "% A %" 6
  rw [hcard] at htries
  rw [hbase, hname] at hfound
  exact ⟨hname, tries, htries, hfound⟩

end Naming
end LooseRecords
