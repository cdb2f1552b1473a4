import LooseRecords.Calendar.Pattern
import LooseRecords.Proofs.Text.Digits
import Mathlib.Data.List.TakeWhile

/-!
# What the readers of dates take and leave

A number that is written with leading zeros is read back by a reader of its width.  And no part of a
pattern takes a `Z`, as it is neither blank nor a digit nor a letter of the name of a month: a text
with a `Z` in it fits no pattern (`Pattern.read?_eq_none_of_mem`).
-/

namespace LooseRecords
namespace Calendar

/-! ### Numbers -/

/-- A run of digits of the full width is split off. -/
theorem splitDigits_append {digits : List Char} (h : ∀ c ∈ digits, Digits.isDigit c = true)
    (rest : List Char) : splitDigits digits.length (digits ++ rest) = (digits, rest) := by
  induction digits with
  | nil => cases rest <;> rfl
  | cons d digits ih =>
    obtain ⟨hd, hdigits⟩ := List.forall_mem_cons.1 h
    rw [List.length_cons, List.cons_append, splitDigits, if_pos hd, ih hdigits]

/-- A number padded to the width of a reader is split off. -/
theorem splitDigits_padLeft {width n : Nat} (hwidth : 0 < width) (h : n < 10 ^ width)
    (rest : List Char) :
    splitDigits width (Digits.padLeft width (Digits.decimal n) ++ rest) =
      (Digits.padLeft width (Digits.decimal n), rest) := by
  have hlength := Digits.length_padLeft (Digits.length_decimal_le hwidth h)
  have hdigits : ∀ c ∈ Digits.padLeft width (Digits.decimal n), Digits.isDigit c = true :=
    fun _ hc => Digits.isDigit_of_mem_padLeft_decimal hc
  have hsplit := splitDigits_append hdigits rest
  rw [hlength] at hsplit
  exact hsplit

/-- A padded number is read back. -/
theorem scanFixed_padLeft {width n : Nat} (hwidth : 0 < width) (h : n < 10 ^ width)
    (rest : List Char) :
    scanFixed width (Digits.padLeft width (Digits.decimal n) ++ rest) = some (n, rest) := by
  unfold scanFixed
  rw [splitDigits_padLeft hwidth h]
  dsimp only
  rw [if_pos (Digits.length_padLeft (Digits.length_decimal_le hwidth h)), Digits.value_padLeft,
    Digits.value_decimal]

theorem scanNumber_padLeft {width n : Nat} (hwidth : 0 < width) (h : n < 10 ^ width)
    (rest : List Char) :
    scanNumber width (Digits.padLeft width (Digits.decimal n) ++ rest) = some (n, rest) := by
  unfold scanNumber
  rw [splitDigits_padLeft hwidth h]
  split
  · next hnil => exact absurd (Prod.mk.inj hnil).1 (Digits.padLeft_decimal_ne_nil width n)
  · next heq =>
    cases heq
    rw [Digits.value_padLeft, Digits.value_decimal]

/-- Three or more digits after the point are read back, those after the third dropped. -/
theorem scanFraction_padLeft {width n : Nat} (hwidth : 3 ≤ width) (h : n < 10 ^ width)
    {rest : List Char} (hrest : ∀ c ∈ rest.head?, Digits.isDigit c = false) :
    scanFraction ('.' :: (Digits.padLeft width (Digits.decimal n) ++ rest)) =
      some (n / 10 ^ (width - 3), rest) := by
  have hlength : (Digits.padLeft width (Digits.decimal n)).length = width :=
    Digits.length_padLeft (Digits.length_decimal_le (Nat.lt_of_lt_of_le (by decide) hwidth) h)
  have hdigits : ∀ c ∈ Digits.padLeft width (Digits.decimal n), Digits.isDigit c = true :=
    fun _ hc => Digits.isDigit_of_mem_padLeft_decimal hc
  have hmilli : millisOfFraction (Digits.padLeft width (Digits.decimal n)) =
      n / 10 ^ (width - 3) := by
    unfold millisOfFraction
    rw [List.take_append_of_le_length (hlength.symm ▸ hwidth), Digits.value_take hdigits, hlength,
      Digits.value_padLeft, Digits.value_decimal]
  rw [scanFraction, span_append_of_all hdigits hrest]
  split
  · next hnil => exact absurd (Prod.mk.inj hnil).1 (Digits.padLeft_decimal_ne_nil width n)
  · next heq =>
    cases heq
    rw [hmilli]

/-! ### Characters that are left -/

variable {c : Char} {cs rest : List Char}

/-- Dropping leaves the first character without the property and all that follow. -/
theorem mem_dropWhile_of_mem {p : Char → Bool} (hc : p c = false) (h : c ∈ cs) :
    c ∈ cs.dropWhile p := by
  rw [← List.takeWhile_append_dropWhile (p := p) (l := cs)] at h
  rcases List.mem_append.1 h with h | h
  · rw [List.mem_takeWhile_imp h] at hc
    cases hc
  · exact h

/-- Splitting off digits only splits, and what it splits off are digits. -/
theorem splitDigits_spec (width : Nat) (cs : List Char) :
    (splitDigits width cs).1 ++ (splitDigits width cs).2 = cs ∧
      ∀ d ∈ (splitDigits width cs).1, Digits.isDigit d = true := by
  induction width generalizing cs with
  | zero => simp [splitDigits]
  | succ width ih =>
    cases cs with
    | nil => simp [splitDigits]
    | cons d rest =>
      obtain ⟨happend, hdigits⟩ := ih rest
      rw [splitDigits]
      split
      · next hd => exact ⟨congrArg (d :: ·) happend, List.forall_mem_cons.2 ⟨hd, hdigits⟩⟩
      · exact ⟨rfl, by simp⟩

/-- A number takes a run of digits from the front of a text. -/
theorem exists_digits_of_scanNumber {width n : Nat} (h : scanNumber width cs = some (n, rest)) :
    ∃ ds, ds ≠ [] ∧ (∀ d ∈ ds, Digits.isDigit d = true) ∧ cs = ds ++ rest := by
  obtain ⟨happend, hdigits⟩ := splitDigits_spec width cs
  unfold scanNumber at h
  split at h
  · cases h
  · next digits after hne hsplit =>
    cases h
    rw [hsplit] at happend hdigits
    exact ⟨digits, hne, hdigits, happend.symm⟩

theorem exists_digits_of_scanFixed {width n : Nat} (hwidth : 0 < width)
    (h : scanFixed width cs = some (n, rest)) :
    ∃ ds, ds ≠ [] ∧ (∀ d ∈ ds, Digits.isDigit d = true) ∧ cs = ds ++ rest := by
  obtain ⟨happend, hdigits⟩ := splitDigits_spec width cs
  unfold scanFixed at h
  dsimp only at h
  split at h
  · next hlength =>
    have hne : (splitDigits width cs).1 ≠ [] := by
      rw [← hlength] at hwidth
      exact List.ne_nil_of_length_pos hwidth
    cases h
    exact ⟨_, hne, hdigits, happend.symm⟩
  · cases h

theorem eq_cons_of_scanChar {expected : Char} (h : scanChar expected cs = some rest) :
    cs = expected :: rest := by
  cases cs with
  | nil => cases h
  | cons c after =>
    rw [scanChar] at h
    split at h
    · next hc =>
      cases h
      rw [hc]
    · cases h

/-- A number takes nothing but digits. -/
theorem mem_of_scanNumber {width n : Nat} (h : scanNumber width cs = some (n, rest))
    (hc : Digits.isDigit c = false) (hmem : c ∈ cs) : c ∈ rest := by
  obtain ⟨ds, -, hdigits, rfl⟩ := exists_digits_of_scanNumber h
  rcases List.mem_append.1 hmem with hmem | hmem
  · exact absurd rfl (Digits.ne_of_isDigit (hdigits c hmem) hc)
  · exact hmem

/-- A word takes only its own letters, in either case. -/
theorem mem_of_scanWord {word : List Char} (h : scanWord word cs = some rest)
    (hc : ∀ w ∈ word, c.toLower ≠ w.toLower) (hmem : c ∈ cs) : c ∈ rest := by
  induction word generalizing cs with
  | nil =>
    cases h
    exact hmem
  | cons w ws ih =>
    obtain ⟨hw, hws⟩ := List.forall_mem_cons.1 hc
    cases cs with
    | nil => cases h
    | cons d ds =>
      rw [scanWord] at h
      split at h
      · next hd =>
        rcases List.mem_cons.1 hmem with rfl | hmem
        · exact absurd hd hw
        · exact ih h hws hmem
      · cases h

/-- No month has a `z` in its name. -/
theorem toLower_ne_of_mem_monthNames {name : List Char × List Char} (hname : name ∈ monthNames)
    {w : Char} (hw : w ∈ name.1 ++ name.2) : 'Z'.toLower ≠ w.toLower := by
  have hall : (monthNames.all fun name =>
      (name.1 ++ name.2).all fun w => 'Z'.toLower != w.toLower) = true := by decide
  have hletters := List.all_eq_true.1 hall name hname
  exact bne_iff_ne.1 (List.all_eq_true.1 hletters w hw)

/-- The name of a month takes no `Z`. -/
theorem mem_of_scanMonth {month : Nat} (h : scanMonth cs = some (month, rest)) (hmem : 'Z' ∈ cs) :
    'Z' ∈ rest := by
  obtain ⟨⟨number, ending, after⟩, hstem, hrest⟩ := Option.map_eq_some_iff.1 h
  cases hrest
  obtain ⟨⟨⟨stem, ending'⟩, i⟩, hname, hfound⟩ := List.exists_of_findSome?_eq_some hstem
  obtain ⟨after', hword, heq⟩ := Option.map_eq_some_iff.1 hfound
  cases heq
  have hletters : ∀ w ∈ stem ++ ending, 'Z'.toLower ≠ w.toLower :=
    fun w => toLower_ne_of_mem_monthNames (List.fst_mem_of_mem_zipIdx hname)
  obtain ⟨hstem, hending⟩ := List.forall_mem_append.1 hletters
  have hafter := mem_of_scanWord hword hstem hmem
  cases hfull : scanWord ending after with
  | none => exact hafter
  | some full => exact mem_of_scanWord hfull hending hafter

/-- A fraction takes nothing but a point and digits. -/
theorem mem_of_scanFraction {milli : Nat} (h : scanFraction cs = some (milli, rest))
    (hc : Digits.isDigit c = false) (hpoint : c ≠ '.') (hmem : c ∈ cs) : c ∈ rest := by
  unfold scanFraction at h
  split at h
  · next after =>
    have hafter : c ∈ after := (List.mem_cons.1 hmem).resolve_left hpoint
    rw [List.span_eq_takeWhile_dropWhile] at h
    split at h
    · cases h
    · next heq =>
      cases heq
      cases h
      exact mem_dropWhile_of_mem hc hafter
  · cases h
    exact hmem

/-- A year takes nothing but a sign and digits. -/
theorem mem_of_scanYear {year : Int} (h : scanYear cs = some (year, rest))
    (hc : Digits.isDigit c = false) (hsign : c ≠ '-' ∧ c ≠ '+') (hmem : c ∈ cs) : c ∈ rest := by
  unfold scanYear at h
  split at h
  all_goals
    obtain ⟨⟨n, after⟩, hnumber, heq⟩ := Option.map_eq_some_iff.1 h
    cases heq
    refine mem_of_scanNumber hnumber hc ?_
  · exact (List.mem_cons.1 hmem).resolve_left hsign.1
  · exact (List.mem_cons.1 hmem).resolve_left hsign.2
  · exact hmem

/-! ### Patterns -/

/-- No part of a pattern takes a `Z`, unless it stands for that character. -/
theorem PatternItem.mem_of_scan {item : PatternItem} {r r' : Reading}
    (h : item.scan r cs = some (r', rest)) (hitem : item ≠ .char 'Z') (hmem : 'Z' ∈ cs) :
    'Z' ∈ rest := by
  have hblanks : 'Z' ∈ Text.skipBlanks cs := mem_dropWhile_of_mem (by decide) hmem
  cases item with
  | char expected =>
    obtain ⟨after, hchar, heq⟩ := Option.map_eq_some_iff.1 h
    cases heq
    rw [eq_cons_of_scanChar hchar] at hmem
    refine (List.mem_cons.1 hmem).resolve_left ?_
    rintro rfl
    exact hitem rfl
  | blank =>
    cases h
    exact hblanks
  | year =>
    obtain ⟨⟨n, after⟩, hyear, heq⟩ := Option.map_eq_some_iff.1 h
    cases heq
    exact mem_of_scanYear hyear (by decide) (by decide) hblanks
  | monthName =>
    obtain ⟨⟨n, after⟩, hmonth, heq⟩ := Option.map_eq_some_iff.1 h
    cases heq
    exact mem_of_scanMonth hmonth hmem
  | fraction =>
    obtain ⟨⟨n, after⟩, hfraction, heq⟩ := Option.map_eq_some_iff.1 h
    cases heq
    exact mem_of_scanFraction hfraction (by decide) (by decide) hmem
  | month | day | hour | minute | second =>
    obtain ⟨⟨n, after⟩, hnumber, heq⟩ := Option.map_eq_some_iff.1 h
    cases heq
    exact mem_of_scanNumber hnumber (by decide) hblanks

theorem Pattern.mem_of_scan {p : Pattern} {r r' : Reading} (h : p.scan r cs = some (r', rest))
    (hp : ∀ item ∈ p, item ≠ .char 'Z') (hmem : 'Z' ∈ cs) : 'Z' ∈ rest := by
  induction p generalizing r cs with
  | nil =>
    cases h
    exact hmem
  | cons item items ih =>
    obtain ⟨⟨r₁, after⟩, hitem, hitems⟩ := Option.bind_eq_some_iff.1 h
    obtain ⟨hfirst, hothers⟩ := List.forall_mem_cons.1 hp
    exact ih hitems hothers (PatternItem.mem_of_scan hitem hfirst hmem)

/-- A text with a `Z` in it fits no pattern without one. -/
theorem Pattern.read?_eq_none_of_mem {p : Pattern} (hp : ∀ item ∈ p, item ≠ .char 'Z')
    (hmem : 'Z' ∈ cs) : p.read? cs = none := by
  unfold Pattern.read?
  split
  · next r hscan => cases Pattern.mem_of_scan hscan hp hmem
  · rfl

end Calendar
end LooseRecords
