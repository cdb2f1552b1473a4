import LooseRecords.Proofs.Text.Blank
import LooseRecords.Proofs.Text.CodeTable
import LooseRecords.Text.Lowercase
import Mathlib.Data.List.Basic

/-!
# Small letters are settled

A small form is its own small form: what the table of small forms moves, it moves to code points
that it keeps.  A capital sigma never occurs in a lowered text, so its two small forms are not
chosen again, and lowering a text a second time changes nothing (`lowerAfter_lowerAfter`).

Forms of characters lead into no table that their images are clear of (`ClosedToForms`): neither
small nor capital forms of characters that are not blank are blank.
-/

namespace LooseRecords
namespace Text

/-! ### Forms of one character -/

/-- A number that is no code point becomes the code point zero. -/
theorem toNat_ofNat_or (n : Nat) : (Char.ofNat n).toNat = n ∨ Char.ofNat n = '\x00' := by
  by_cases hvalid : n.isValidChar
  · refine .inl ?_
    rw [Char.ofNat, dif_pos hvalid]
    rfl
  · exact .inr (dif_neg hvalid)

/-- No small form has another small form or is the dotted capital. -/
theorem smallShifts_landsOutside :
    smallShifts.landsOutside smallShifts.sources = true ∧
      smallShifts.landsOutside [(0x130, 0x130, 1)] = true := by
  decide +kernel

/-- The small form of a character is kept where small forms are taken again. -/
theorem smallForm_of_mem_smallForm {c d : Char} (h : d ∈ smallForm c) : smallForm d = [d] := by
  unfold smallForm at h
  split at h
  · have hboth : ∀ e ∈ ['i', '\u0307'], smallForm e = [e] := by
      rw [List.forall_mem_cons, List.forall_mem_singleton]
      decide
    exact hboth d h
  · next hdotted =>
    rw [List.mem_singleton.1 h]
    rcases toNat_ofNat_or (smallShifts.apply c.toNat) with hcode | hzero
    · have hdot : Char.ofNat (smallShifts.apply c.toNat) ≠ 'İ' := by
        intro heq
        rw [heq] at hcode
        -- The dotted capital is no image, so it would have to be `c` itself.
        rcases CodeShifts.apply_eq_self_or_contains_eq_false smallShifts_landsOutside.2 c.toNat
          with hkept | houtside
        · rw [hkept, Char.ofNat_toNat] at heq
          exact hdotted heq
        · rw [← hcode] at houtside
          cases houtside
      rw [smallForm, if_neg hdot, hcode, CodeShifts.apply_apply smallShifts_landsOutside.1]
    · rw [hzero]
      decide

/-- Whether no small or capital form leads into a table of characters from outside. -/
structure ClosedToForms (table : CodeRanges) : Prop where
  small : smallShifts.landsOutside table.runs = true
  capital : capitalShifts.landsOutside table.runs = true
  /-- The forms of several characters. -/
  long : ∀ entry ∈ longCapitalForms, ∀ n ∈ entry.2, table.contains (Char.ofNat n).toNat = false
  /-- What a number that is no code point becomes, the small form of the dotted capital, and the two
  small forms of sigma. -/
  others : ∀ c ∈ ['\x00', 'i', '\u0307', 'ς', 'σ'], table.contains c.toNat = false

namespace ClosedToForms

variable {table : CodeRanges}

/-- A shift whose images are outside the table leads to no character in it. -/
theorem contains_ofNat_apply (h : ClosedToForms table) {shifts : CodeShifts}
    (hshifts : shifts.landsOutside table.runs = true) {n : Nat} (hn : table.contains n = false) :
    table.contains (Char.ofNat (shifts.apply n)).toNat = false := by
  rcases toNat_ofNat_or (shifts.apply n) with hcode | hzero
  · rw [hcode]
    rcases CodeShifts.apply_eq_self_or_contains_eq_false hshifts n with hkept | houtside
    · rw [hkept]
      exact hn
    · rw [← CodeRanges.contains_runs]
      exact houtside
  · rw [hzero]
    exact h.others _ (by simp)

/-- The small form of a character outside the table has no character in it. -/
theorem contains_of_mem_smallForm (h : ClosedToForms table) {c d : Char} (hd : d ∈ smallForm c)
    (hc : table.contains c.toNat = false) : table.contains d.toNat = false := by
  unfold smallForm at hd
  split at hd
  · refine h.others d ?_
    rcases List.mem_pair.1 hd with rfl | rfl <;> simp
  · rw [List.mem_singleton.1 hd]
    exact h.contains_ofNat_apply h.small hc

/-- The capital form of a character outside the table has no character in it. -/
theorem contains_of_mem_capitalForm (h : ClosedToForms table) {c d : Char}
    (hd : d ∈ capitalForm c) (hc : table.contains c.toNat = false) :
    table.contains d.toNat = false := by
  unfold capitalForm at hd
  split at hd
  · next form hform =>
    obtain ⟨before, after, hentries, -⟩ := List.lookup_eq_some_iff.1 hform
    have hmem : (c.toNat, form) ∈ longCapitalForms := by
      rw [hentries]
      exact List.mem_append_right _ List.mem_cons_self
    obtain ⟨n, hn, rfl⟩ := List.mem_map.1 hd
    exact h.long _ hmem n hn
  · rw [List.mem_singleton.1 hd]
    exact h.contains_ofNat_apply h.capital hc

end ClosedToForms

/-- No form is a blank, unless it is that of a blank. -/
theorem closedToForms_blankCharacters : ClosedToForms blankCharacters where
  small := by decide +kernel
  capital := by decide +kernel
  long := by decide +kernel
  others := List.forall_iff_forall_mem.1 (by decide)

/-! ### Lowering a text -/

/-- Lowering goes character by character, and what becomes of a character is kept by lowering and
is not blank unless the character is. -/
theorem exists_lowerAfter_cons (before : List Char) (c : Char) (rest : List Char) :
    ∃ form, lowerAfter before (c :: rest) = form ++ lowerAfter (c :: before) rest ∧ form ≠ [] ∧
      ∀ d ∈ form, smallForm d = [d] ∧ (isBlank c = false → isBlank d = false) := by
  refine ⟨_, rfl, ?_⟩
  split
  · have hsigmas : ∀ d ∈ ['ς', 'σ'], smallForm d = [d] ∧ isBlank d = false := by
      rw [List.forall_mem_cons, List.forall_mem_singleton]
      decide
    have hsigma : smallSigma before rest ∈ ['ς', 'σ'] := by
      unfold smallSigma
      split <;> simp
    refine ⟨List.cons_ne_nil _ _, fun d hd => ?_⟩
    rw [List.mem_singleton.1 hd]
    exact ⟨(hsigmas _ hsigma).1, fun _ => (hsigmas _ hsigma).2⟩
  · refine ⟨?_, fun d hd => ⟨smallForm_of_mem_smallForm hd,
      closedToForms_blankCharacters.contains_of_mem_smallForm hd⟩⟩
    unfold smallForm
    split <;> simp

/-- Every character of a lowered text is its own small form. -/
theorem smallForm_of_mem_lowerAfter {before cs : List Char} {d : Char}
    (h : d ∈ lowerAfter before cs) : smallForm d = [d] := by
  induction cs generalizing before with
  | nil => cases h
  | cons c rest ih =>
    obtain ⟨form, hform, -, hall⟩ := exists_lowerAfter_cons before c rest
    rw [hform] at h
    rcases List.mem_append.1 h with h | h
    · exact (hall d h).1
    · exact ih h

/-- A text of small letters is kept; it has no capital sigma, whose small form is another letter. -/
theorem lowerAfter_eq_self {cs : List Char} (h : ∀ c ∈ cs, smallForm c = [c])
    (before : List Char) : lowerAfter before cs = cs := by
  induction cs generalizing before with
  | nil => rfl
  | cons c rest ih =>
    obtain ⟨hc, hrest⟩ := List.forall_mem_cons.1 h
    have hsigma : c ≠ 'Σ' := by
      rintro rfl
      exact absurd hc (by decide +kernel)
    rw [lowerAfter, if_neg hsigma, hc, ih hrest, List.singleton_append]

/-- Lowering a text twice is lowering it once. -/
theorem lowerAfter_lowerAfter (cs before before' : List Char) :
    lowerAfter before' (lowerAfter before cs) = lowerAfter before cs :=
  lowerAfter_eq_self (fun _ h => smallForm_of_mem_lowerAfter h) before'

theorem lowerAfter_eq_nil_iff {before cs : List Char} : lowerAfter before cs = [] ↔ cs = [] := by
  cases cs with
  | nil => simp [lowerAfter]
  | cons c rest =>
    obtain ⟨form, hform, hne, -⟩ := exists_lowerAfter_cons before c rest
    simp [hform, hne]

/-- A text that starts with no blank is lowered to such a text. -/
theorem isBlank_of_mem_head?_lowerAfter {before cs : List Char}
    (hfirst : ∀ c ∈ cs.head?, isBlank c = false) :
    ∀ d ∈ (lowerAfter before cs).head?, isBlank d = false := by
  cases cs with
  | nil => simp [lowerAfter]
  | cons c rest =>
    obtain ⟨form, hform, hne, hall⟩ := exists_lowerAfter_cons before c rest
    intro d hd
    rw [hform, List.head?_append_of_ne_nil _ hne] at hd
    exact (hall d (List.mem_of_mem_head? hd)).2 (hfirst c rfl)

/-- A text that ends with no blank is lowered to such a text. -/
theorem isBlank_of_mem_getLast?_lowerAfter {before cs : List Char}
    (hlast : ∀ c ∈ cs.getLast?, isBlank c = false) :
    ∀ d ∈ (lowerAfter before cs).getLast?, isBlank d = false := by
  induction cs generalizing before with
  | nil => simp [lowerAfter]
  | cons c rest ih =>
    obtain ⟨form, hform, -, hall⟩ := exists_lowerAfter_cons before c rest
    intro d hd
    rw [hform] at hd
    cases rest with
    | nil =>
      rw [lowerAfter, List.append_nil] at hd
      exact (hall d (List.mem_of_getLast? hd)).2 (hlast c rfl)
    | cons c' rest =>
      have hne : lowerAfter (c :: before) (c' :: rest) ≠ [] := by
        rw [Ne, lowerAfter_eq_nil_iff]
        exact List.cons_ne_nil _ _
      rw [List.getLast?_append_of_ne_nil _ hne] at hd
      exact ih (by simpa only [List.getLast?_cons_cons] using hlast) d hd

end Text
end LooseRecords
