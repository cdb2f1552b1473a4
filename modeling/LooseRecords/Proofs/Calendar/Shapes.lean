import LooseRecords.Proofs.Calendar.Written
import LooseRecords.Proofs.Readings

/-!
# Shapes of written dates

The shape of a text has a one in the place of each digit.  The readers of numbers look at whether a
character is a digit and never at which digit it is, so whether a text fits a pattern is seen from
its shape (`Pattern.fits_shape_iff`).  The texts that a pattern writes are without number, but they
have few shapes: there are the names of the months, and there are fractions of four lengths
(`Pattern.shape_write_mem`).
-/

namespace LooseRecords
namespace Calendar

open Text (isBlank skipBlanks)

/-- A one for a digit; any other character stays. -/
def shapeOf (c : Char) : Char :=
  if Digits.isDigit c then '1' else c

/-- A text with each of its digits replaced by a one. -/
def shape (cs : List Char) : List Char :=
  cs.map shapeOf

/-! ### Shapes of characters -/

theorem shapeOf_of_isDigit {c : Char} (h : Digits.isDigit c = true) : shapeOf c = '1' :=
  if_pos h

theorem shapeOf_eq_self {c : Char} (h : Digits.isDigit c = false) : shapeOf c = c :=
  if_neg (by simp [h])

theorem isDigit_shapeOf (c : Char) : Digits.isDigit (shapeOf c) = Digits.isDigit c := by
  cases h : Digits.isDigit c with
  | true => rw [shapeOf_of_isDigit h]; rfl
  | false => rw [shapeOf_eq_self h, h]

/-- No other character has the shape of one that is not a digit. -/
theorem shapeOf_eq_iff {c d : Char} (hd : Digits.isDigit d = false) : shapeOf c = d ↔ c = d := by
  cases h : Digits.isDigit c with
  | true =>
    have hone : Digits.isDigit '1' = true := rfl
    rw [shapeOf_of_isDigit h]
    exact iff_of_false (Digits.ne_of_isDigit hone hd) (Digits.ne_of_isDigit h hd)
  | false => rw [shapeOf_eq_self h]

theorem isBlank_shapeOf (c : Char) : isBlank (shapeOf c) = isBlank c := by
  cases h : Digits.isDigit c with
  | true =>
    rw [shapeOf_of_isDigit h, Digits.isBlank_of_isDigit h]
    rfl
  | false => rw [shapeOf_eq_self h]

theorem toLower_shapeOf (c : Char) : (shapeOf c).toLower = shapeOf c.toLower := by
  have hlower := isDigit_toLower c
  cases h : Digits.isDigit c with
  | true =>
    rw [h] at hlower
    rw [shapeOf_of_isDigit h, shapeOf_of_isDigit hlower]
    rfl
  | false =>
    rw [h] at hlower
    rw [shapeOf_eq_self h, shapeOf_eq_self hlower]

theorem shape_cons (c : Char) (cs : List Char) : shape (c :: cs) = shapeOf c :: shape cs :=
  rfl

theorem shape_append (cs ds : List Char) : shape (cs ++ ds) = shape cs ++ shape ds :=
  List.map_append

/-- Digits have the shape of as many ones. -/
theorem shape_of_isDigit {cs : List Char} (h : ∀ c ∈ cs, Digits.isDigit c = true) :
    shape cs = List.replicate cs.length '1' :=
  List.map_eq_replicate_iff.2 fun c hc => shapeOf_of_isDigit (h c hc)

/-- Characters are counted in the shape, unless digits are among those that count. -/
theorem countP_shape {p : Char → Bool} (h : ∀ c, p (shapeOf c) = p c) (cs : List Char) :
    (shape cs).countP p = cs.countP p := by
  rw [shape, List.countP_map]
  exact List.countP_congr fun c _ => by rw [Function.comp_apply, h]

/-! ### Readers that go by the shape -/

/-- What a reader leaves of a text, if it takes anything. -/
def leaves {α : Type} (found : Option (α × List Char)) : Option (List Char) :=
  found.map Prod.snd

/-- What a reader makes of what it took is of no account to what it leaves. -/
theorem leaves_map {α β : Type} {f : α × List Char → β × List Char} (hf : ∀ x, (f x).2 = x.2)
    (found : Option (α × List Char)) : leaves (found.map f) = leaves found := by
  rw [leaves, Option.map_map]
  exact Option.map_congr fun x _ => hf x

theorem leaves_map_shape {α α' β β' : Type} {x : Option (α × List Char)}
    {y : Option (α' × List Char)} {f : α × List Char → β × List Char}
    {g : α' × List Char → β' × List Char} (hf : ∀ x, (f x).2 = x.2) (hg : ∀ y, (g y).2 = y.2)
    (h : leaves x = (leaves y).map shape) : leaves (x.map f) = (leaves (y.map g)).map shape := by
  rw [leaves_map hf, leaves_map hg, h]

theorem skipBlanks_shape (cs : List Char) : skipBlanks (shape cs) = shape (skipBlanks cs) := by
  have hblank : isBlank ∘ shapeOf = isBlank := funext isBlank_shapeOf
  rw [skipBlanks, shape, List.dropWhile_map, hblank]
  rfl

theorem splitDigits_shape (width : Nat) (cs : List Char) :
    splitDigits width (shape cs) = Prod.map shape shape (splitDigits width cs) := by
  induction width generalizing cs with
  | zero => simp [splitDigits, shape]
  | succ width ih =>
    cases cs with
    | nil => rfl
    | cons c rest =>
      rw [shape_cons, splitDigits, splitDigits, isDigit_shapeOf, ih]
      split <;> rfl

theorem leaves_scanNumber_shape (width : Nat) (cs : List Char) :
    leaves (scanNumber width (shape cs)) = (leaves (scanNumber width cs)).map shape := by
  unfold scanNumber
  rw [splitDigits_shape]
  rcases splitDigits width cs with ⟨_ | ⟨d, digits⟩, rest⟩ <;> rfl

theorem leaves_scanYear_shape (cs : List Char) :
    leaves (scanYear (shape cs)) = (leaves (scanYear cs)).map shape := by
  by_cases hunsigned : ∀ c ∈ cs.head?, c ≠ '-' ∧ c ≠ '+'
  · have hshape : ∀ c ∈ (shape cs).head?, c ≠ '-' ∧ c ≠ '+' := by
      intro c hc
      rw [shape, List.head?_map] at hc
      obtain ⟨d, hd, rfl⟩ := Option.map_eq_some_iff.1 hc
      rw [Ne, Ne, shapeOf_eq_iff rfl, shapeOf_eq_iff rfl]
      exact hunsigned d hd
    rw [scanYear_of_unsigned hunsigned, scanYear_of_unsigned hshape]
    exact leaves_map_shape (fun _ => rfl) (fun _ => rfl) (leaves_scanNumber_shape 4 cs)
  · obtain ⟨rest, hsign⟩ : ∃ rest, cs = '-' :: rest ∨ cs = '+' :: rest := by
      cases cs with
      | nil => simp at hunsigned
      | cons c rest =>
        simp only [List.head?_cons, Option.mem_some_iff, forall_eq', not_and_or, not_not]
          at hunsigned
        exact ⟨rest, hunsigned.imp (congrArg (· :: rest)) (congrArg (· :: rest))⟩
    have hlength : (shape rest).length = rest.length := List.length_map _
    have hnumber := leaves_scanNumber_shape rest.length rest
    rcases hsign with rfl | rfl
    · rw [shape_cons, shapeOf_eq_self rfl, scanYear, scanYear, hlength]
      exact leaves_map_shape (fun _ => rfl) (fun _ => rfl) hnumber
    · rw [shape_cons, shapeOf_eq_self rfl, scanYear, scanYear, hlength]
      exact leaves_map_shape (fun _ => rfl) (fun _ => rfl) hnumber

theorem scanChar_shape {expected : Char} (h : Digits.isDigit expected = false) (cs : List Char) :
    scanChar expected (shape cs) = (scanChar expected cs).map shape := by
  cases cs with
  | nil => rfl
  | cons c rest =>
    rw [shape_cons, scanChar, scanChar]
    simp only [shapeOf_eq_iff h]
    split <;> rfl

theorem scanWord_shape {word : List Char} (h : ∀ w ∈ word, Digits.isDigit w = false)
    (cs : List Char) : scanWord word (shape cs) = (scanWord word cs).map shape := by
  induction word generalizing cs with
  | nil => rfl
  | cons w ws ih =>
    obtain ⟨hw, hws⟩ := List.forall_mem_cons.1 h
    cases cs with
    | nil => rfl
    | cons c rest =>
      have hlower : Digits.isDigit w.toLower = false := by rw [isDigit_toLower, hw]
      rw [shape_cons, scanWord, scanWord, toLower_shapeOf, ih hws]
      simp only [shapeOf_eq_iff hlower]
      split <;> rfl

theorem leaves_scanFraction_shape (cs : List Char) :
    leaves (scanFraction (shape cs)) = (leaves (scanFraction cs)).map shape := by
  have hdigit : Digits.isDigit ∘ shapeOf = Digits.isDigit := funext isDigit_shapeOf
  by_cases hpoint : ∃ rest, cs = '.' :: rest
  · obtain ⟨rest, rfl⟩ := hpoint
    have hspan : (shape rest).span Digits.isDigit =
        Prod.map shape shape (rest.span Digits.isDigit) := by
      rw [List.span_eq_takeWhile_dropWhile, List.span_eq_takeWhile_dropWhile, shape,
        List.takeWhile_map, List.dropWhile_map, hdigit]
      rfl
    rw [shape_cons, shapeOf_eq_self rfl, scanFraction, scanFraction, hspan]
    rcases rest.span Digits.isDigit with ⟨_ | ⟨d, digits⟩, after⟩ <;> rfl
  · have hother {ds : List Char} (h : ∀ rest, ds ≠ '.' :: rest) :
        scanFraction ds = some (0, ds) := by
      unfold scanFraction
      split
      · next rest => exact absurd rfl (h rest)
      · rfl
    have hshape : ∀ rest, shape cs ≠ '.' :: rest := by
      intro rest h
      obtain ⟨c, others, rfl, hc, -⟩ := List.map_eq_cons_iff.1 h
      rw [shapeOf_eq_iff rfl] at hc
      exact hpoint ⟨others, hc ▸ rfl⟩
    rw [hother hshape, hother fun rest h => hpoint ⟨rest, h⟩]
    rfl

/-- There are no digits in the names of months. -/
theorem isDigit_of_mem_monthNames {name : List Char × List Char} (hname : name ∈ monthNames) :
    ∀ c ∈ name.1 ++ name.2, Digits.isDigit c = false := by
  have hall : (monthNames.all fun name => (name.1 ++ name.2).all fun c => !Digits.isDigit c) =
      true := by decide
  intro c hc
  have hletter := List.all_eq_true.1 (List.all_eq_true.1 hall name hname) c hc
  simpa using hletter

theorem leaves_scanMonth_shape (cs : List Char) :
    leaves (scanMonth (shape cs)) = (leaves (scanMonth cs)).map shape := by
  have hstem : scanMonthStem (shape cs) =
      (scanMonthStem cs).map fun found => (found.1, found.2.1, shape found.2.2) := by
    unfold scanMonthStem
    rw [List.map_findSome?, ← List.head?_filterMap, ← List.head?_filterMap]
    refine congrArg List.head? (List.filterMap_congr fun name hname => ?_)
    have hletters := List.forall_mem_append.1
      (isDigit_of_mem_monthNames (List.fst_mem_of_mem_zipIdx hname))
    dsimp only [Function.comp_apply]
    rw [scanWord_shape hletters.1, Option.map_map, Option.map_map]
    rfl
  unfold scanMonth
  rw [hstem]
  cases hscan : scanMonthStem cs with
  | none => rfl
  | some found =>
    obtain ⟨month, ending, rest⟩ := found
    obtain ⟨name, hname, hfound⟩ := List.exists_of_findSome?_eq_some hscan
    obtain ⟨after, -, heq⟩ := Option.map_eq_some_iff.1 hfound
    cases heq
    have hletters := List.forall_mem_append.1
      (isDigit_of_mem_monthNames (List.fst_mem_of_mem_zipIdx hname))
    show some ((scanWord name.1.2 (shape rest)).getD (shape rest)) =
      some (shape ((scanWord name.1.2 rest).getD rest))
    rw [scanWord_shape hletters.2]
    cases scanWord name.1.2 rest <;> rfl

/-! ### Patterns go by the shape -/

/-- Whether a part of a pattern does not stand for a digit. -/
def PatternItem.isNoDigit : PatternItem → Bool
  | .char c => !Digits.isDigit c
  | _ => true

theorem PatternItem.leaves_scan_shape {item : PatternItem} (hitem : item.isNoDigit = true)
    (r r' : Reading) (cs : List Char) :
    leaves (item.scan r (shape cs)) = (leaves (item.scan r' cs)).map shape := by
  have hnumber : leaves (scanNumber 2 (skipBlanks (shape cs))) =
      (leaves (scanNumber 2 (skipBlanks cs))).map shape := by
    rw [skipBlanks_shape, leaves_scanNumber_shape]
  cases item with
  | char c =>
    have hc : Digits.isDigit c = false := by simpa [isNoDigit] using hitem
    rw [scan, scan, scanChar_shape hc]
    cases scanChar c cs <;> rfl
  | blank =>
    show some (skipBlanks (shape cs)) = some (shape (skipBlanks cs))
    rw [skipBlanks_shape]
  | year =>
    refine leaves_map_shape (fun _ => rfl) (fun _ => rfl) ?_
    rw [skipBlanks_shape, leaves_scanYear_shape]
  | monthName => exact leaves_map_shape (fun _ => rfl) (fun _ => rfl) (leaves_scanMonth_shape cs)
  | fraction => exact leaves_map_shape (fun _ => rfl) (fun _ => rfl) (leaves_scanFraction_shape cs)
  | month | day | hour | minute | second =>
    exact leaves_map_shape (fun _ => rfl) (fun _ => rfl) hnumber

theorem Pattern.leaves_scan_shape {p : Pattern} (hp : p.all (·.isNoDigit) = true) (r r' : Reading)
    (cs : List Char) : leaves (p.scan r (shape cs)) = (leaves (p.scan r' cs)).map shape := by
  induction p generalizing r r' cs with
  | nil => rfl
  | cons item items ih =>
    rw [List.all_cons, Bool.and_eq_true] at hp
    have hitem := PatternItem.leaves_scan_shape hp.1 r r' cs
    rw [Pattern.scan, Pattern.scan]
    cases hscan : item.scan r' cs with
    | none =>
      rw [hscan] at hitem
      obtain hnone : item.scan r (shape cs) = none := Option.map_eq_none_iff.1 hitem
      rw [hnone]
      rfl
    | some found =>
      rw [hscan] at hitem
      obtain ⟨found', hscan', hrest⟩ := Option.map_eq_some_iff.1 hitem
      rw [hscan']
      show leaves (Pattern.scan items found'.1 found'.2) =
        (leaves (Pattern.scan items found.1 found.2)).map shape
      rw [hrest]
      exact ih hp.2 found'.1 found.1 found.2

/-- Whether a text consists of the parts of a pattern. -/
def Pattern.Fits (p : Pattern) (cs : List Char) : Prop :=
  leaves (p.scan {} cs) = some []

instance (p : Pattern) : DecidablePred p.Fits := fun cs =>
  inferInstanceAs (Decidable (leaves (p.scan {} cs) = some []))

/-- Whether a text fits a pattern is seen from its shape. -/
theorem Pattern.fits_shape_iff {p : Pattern} (hp : p.all (·.isNoDigit) = true) (cs : List Char) :
    p.Fits (shape cs) ↔ p.Fits cs := by
  unfold Pattern.Fits
  rw [Pattern.leaves_scan_shape hp {} {} cs, Option.map_eq_some_iff]
  constructor
  · rintro ⟨rest, hrest, hnil⟩
    rw [hrest, List.map_eq_nil_iff.1 hnil]
  · exact fun h => ⟨[], h, rfl⟩

theorem Pattern.fits_of_read? {p : Pattern} {cs : List Char} {t : Instant}
    (h : p.read? cs = some t) : p.Fits cs := by
  unfold Pattern.read? at h
  split at h
  · next r hscan =>
    rw [Pattern.Fits, hscan]
    rfl
  · cases h

/-! ### Shapes of what is written -/

/-- The shapes that a part of a pattern is written in. -/
def PatternItem.shapes : PatternItem → List (List Char)
  | .char c => [[shapeOf c]]
  | .blank => [[' ']]
  | .year => [List.replicate 4 '1']
  | .monthName => monthNames.flatMap fun (stem, ending) => [stem ++ ending, stem]
  | .fraction => [] :: [3, 6, 9].map fun width => '.' :: List.replicate width '1'
  | _ => [List.replicate 2 '1']

/-- The shapes that a pattern is written in. -/
def Pattern.shapes : Pattern → List (List Char)
  | [] => [[]]
  | item :: items => item.shapes.flatMap fun front => (Pattern.shapes items).map (front ++ ·)

variable {form : MonthForm} {m : Moment}

/-- A padded number has the shape of as many ones as it has digits. -/
theorem shape_padLeft {width n : Nat} (hwidth : 0 < width) (h : n < 10 ^ width) :
    shape (Digits.padLeft width (Digits.decimal n)) = List.replicate width '1' := by
  rw [shape_of_isDigit fun _ hc => Digits.isDigit_of_mem_padLeft_decimal hc,
    Digits.length_padLeft (Digits.length_decimal_le hwidth h)]

theorem shape_fractionChars {nano : Nat} (h : nano < 1000000000) :
    shape (fractionChars nano) ∈ PatternItem.fraction.shapes := by
  have hpoint {width n : Nat} (hwidth : width ∈ [3, 6, 9]) (hn : n < 10 ^ width) :
      shape ('.' :: Digits.padLeft width (Digits.decimal n)) ∈ PatternItem.fraction.shapes := by
    have hpos : 0 < width := by
      simp only [List.mem_cons, List.not_mem_nil, or_false] at hwidth
      omega
    refine List.mem_cons_of_mem _ (List.mem_map.2 ⟨width, hwidth, ?_⟩)
    rw [← shape_padLeft hpos hn]
    rfl
  unfold fractionChars
  split
  · exact List.mem_cons_self
  · split
    · exact hpoint (by decide) (by omega)
    · split
      · exact hpoint (by decide) (by omega)
      · exact hpoint (by decide) (by omega)

theorem shape_monthChars {month : Nat} (hmonth : 1 ≤ month ∧ month ≤ 12) :
    shape (monthChars form month) ∈ PatternItem.monthName.shapes := by
  obtain ⟨hfirst, hlast⟩ := hmonth
  cases form <;> interval_cases month <;> decide

theorem PatternItem.shape_write_mem (item : PatternItem) :
    shape (item.write form m) ∈ item.shapes := by
  have htwo {n : Nat} (hn : n < 100) : shape (Instant.twoDigits n) ∈ [List.replicate 2 '1'] :=
    List.mem_singleton.2 (shape_padLeft (by decide) hn)
  have hmonth := m.date.month_mem
  have hday := m.date.day_mem
  have hlength := monthLength_le (isLeapYear m.date.year) m.date.month
  have hyear := m.year_mem
  have hhour := m.hour_lt
  have hminute := m.minute_lt
  have hsecond := m.second_lt
  cases item with
  | char c => exact List.mem_singleton.2 rfl
  | blank => exact List.mem_singleton.2 rfl
  | year => exact List.mem_singleton.2 (shape_padLeft (by decide) (by omega))
  | monthName => exact shape_monthChars hmonth
  | fraction => exact shape_fractionChars m.nano_lt
  | month | day | hour | minute | second => exact htwo (by omega)

/-- What a pattern writes has one of its shapes. -/
theorem Pattern.shape_write_mem (p : Pattern) (form : MonthForm) (m : Moment) :
    shape (p.write form m) ∈ p.shapes := by
  induction p with
  | nil => exact List.mem_singleton.2 rfl
  | cons item items ih =>
    rw [Pattern.write, List.flatMap_cons, shape_append]
    exact List.mem_flatMap.2 ⟨_, item.shape_write_mem, List.mem_map.2 ⟨_, ih, rfl⟩⟩

end Calendar
end LooseRecords
