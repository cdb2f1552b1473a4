import Mathlib.Data.List.Forall2

/-!
# Checks that run over a list

A list of checks stops at the first one that fails.  What it means that none does is said here once:
a check of every member succeeds exactly when it succeeds at each member, and a list of results
comes about exactly when every member gives the result in its place.  And where one fails, the error
is that of the first member that fails (`IsFirstWithout`), whatever comes after it.
-/

namespace LooseRecords

variable {α β ε : Type}

/-- A computation of two steps succeeds exactly when both steps do. -/
theorem bind_eq_ok_iff {first : Except ε α} {next : α → Except ε β} {result : β} :
    (first >>= next) = .ok result ↔ ∃ value, first = .ok value ∧ next value = .ok result := by
  cases first with
  | error e => simp [bind, Except.bind]
  | ok value => simp [bind, Except.bind]

/-- A computation of two steps fails with the error of the step that fails first. -/
theorem bind_eq_error_iff {first : Except ε α} {next : α → Except ε β} {e : ε} :
    (first >>= next) = .error e ↔
      first = .error e ∨ ∃ value, first = .ok value ∧ next value = .error e := by
  cases first with
  | error e' => simp [bind, Except.bind]
  | ok value => simp [bind, Except.bind]

/-- Mapping a result changes neither whether there is one nor which one it comes from. -/
theorem map_eq_ok_iff {f : α → β} {x : Except ε α} {y : β} :
    x.map f = .ok y ↔ ∃ a, x = .ok a ∧ f a = y := by
  cases x <;> simp [Except.map]

/-- Mapping an error changes no success. -/
theorem mapError_eq_ok_iff {ε' : Type} {f : ε → ε'} {x : Except ε α} {a : α} :
    x.mapError f = .ok a ↔ x = .ok a := by
  cases x <;> simp [Except.mapError]

theorem exists_eq_ok_of_isOk {x : Except ε α} (h : x.isOk = true) : ∃ a, x = .ok a := by
  cases x with
  | error e => cases h
  | ok a => exact ⟨a, rfl⟩

/-- A check of a list succeeds exactly when it succeeds at every member. -/
theorem forM_eq_ok_iff {check : α → Except ε Unit} {xs : List α} :
    xs.forM check = .ok () ↔ ∀ x ∈ xs, check x = .ok () := by
  induction xs with
  | nil => simp [pure, Except.pure]
  | cons x rest ih =>
    change (check x >>= fun _ => rest.forM check) = .ok () ↔ _
    rw [bind_eq_ok_iff, List.forall_mem_cons]
    constructor
    · rintro ⟨⟨⟩, hx, hrest⟩
      exact ⟨hx, ih.1 hrest⟩
    · rintro ⟨hx, hrest⟩
      exact ⟨(), hx, ih.2 hrest⟩

/-- The results of a list are the results of its members, each in its place. -/
theorem mapM_eq_ok_iff {f : α → Except ε β} {xs : List α} {ys : List β} :
    xs.mapM f = .ok ys ↔ List.Forall₂ (fun x y => f x = .ok y) xs ys := by
  induction xs generalizing ys with
  | nil => cases ys <;> simp [pure, Except.pure]
  | cons x rest ih =>
    rw [List.mapM_cons, bind_eq_ok_iff]
    constructor
    · rintro ⟨y, hx, h⟩
      obtain ⟨ys, hrest, h⟩ := bind_eq_ok_iff.1 h
      cases h
      exact .cons hx (ih.1 hrest)
    · intro h
      cases h with
      | @cons _ y _ ys hx hrest =>
        exact ⟨y, hx, bind_eq_ok_iff.2 ⟨ys, ih.2 hrest, rfl⟩⟩

/-- A list has results exactly when every member has one. -/
theorem exists_mapM_eq_ok_iff {f : α → Except ε β} {xs : List α} :
    (∃ ys, xs.mapM f = .ok ys) ↔ ∀ x ∈ xs, ∃ y, f x = .ok y := by
  induction xs with
  | nil => simp [pure, Except.pure]
  | cons x rest ih =>
    rw [List.forall_mem_cons, ← ih]
    simp only [mapM_eq_ok_iff]
    constructor
    · rintro ⟨_, h⟩
      cases h with
      | cons hx hrest => exact ⟨⟨_, hx⟩, _, hrest⟩
    · rintro ⟨⟨y, hx⟩, ys, hrest⟩
      exact ⟨y :: ys, .cons hx hrest⟩

/-! ### The first failure -/

/-- Whether `x` stands in a list where it is the first member without a property. -/
def IsFirstWithout (p : α → Prop) (xs : List α) (x : α) : Prop :=
  ∃ before after, xs = before ++ x :: after ∧ (∀ y ∈ before, p y) ∧ ¬p x

theorem not_isFirstWithout_nil {p : α → Prop} {x : α} : ¬IsFirstWithout p [] x := by
  rintro ⟨before, after, h, -⟩
  cases before <;> cases h

/-- The first member is the first one without a property, or it has the property and the first one
without it comes later. -/
theorem isFirstWithout_cons_iff {p : α → Prop} {first : α} {rest : List α} {x : α} :
    IsFirstWithout p (first :: rest) x ↔
      (x = first ∧ ¬p first) ∨ (p first ∧ IsFirstWithout p rest x) := by
  constructor
  · rintro ⟨before, after, h, hbefore, hx⟩
    cases before with
    | nil =>
      cases h
      exact .inl ⟨rfl, hx⟩
    | cons y before =>
      cases h
      obtain ⟨hy, hothers⟩ := List.forall_mem_cons.1 hbefore
      exact .inr ⟨hy, before, after, rfl, hothers, hx⟩
  · rintro (⟨rfl, hx⟩ | ⟨hfirst, before, after, rfl, hbefore, hx⟩)
    · exact ⟨[], rest, rfl, by simp, hx⟩
    · exact ⟨first :: before, after, rfl, List.forall_mem_cons.2 ⟨hfirst, hbefore⟩, hx⟩

theorem IsFirstWithout.not {p : α → Prop} {xs : List α} {x : α} (h : IsFirstWithout p xs x) :
    ¬p x := by
  obtain ⟨_, _, -, -, hx⟩ := h
  exact hx

theorem IsFirstWithout.mem {p : α → Prop} {xs : List α} {x : α} (h : IsFirstWithout p xs x) :
    x ∈ xs := by
  obtain ⟨before, after, rfl, -, -⟩ := h
  exact List.mem_append_right _ List.mem_cons_self

theorem IsFirstWithout.congr {p q : α → Prop} {xs : List α} (h : ∀ y ∈ xs, p y ↔ q y) {x : α} :
    IsFirstWithout p xs x ↔ IsFirstWithout q xs x := by
  induction xs with
  | nil => simp only [not_isFirstWithout_nil]
  | cons first rest ih =>
    obtain ⟨hfirst, hrest⟩ := List.forall_mem_cons.1 h
    rw [isFirstWithout_cons_iff, isFirstWithout_cons_iff, hfirst, ih hrest]

/-- A check of a list fails with the error of the first member at which it fails. -/
theorem forM_eq_error_iff {check : α → Except ε Unit} {xs : List α} {e : ε} :
    xs.forM check = .error e ↔
      ∃ x, IsFirstWithout (fun y => check y = .ok ()) xs x ∧ check x = .error e := by
  induction xs with
  | nil => simp [pure, Except.pure, not_isFirstWithout_nil]
  | cons first rest ih =>
    change (check first >>= fun _ => rest.forM check) = .error e ↔ _
    simp only [isFirstWithout_cons_iff]
    cases hfirst : check first with
    | error e' => simp [bind, Except.bind, hfirst]
    | ok value => simpa [bind, Except.bind, hfirst] using ih

/-- Results of a list fail to come about with the error of the first member that has none. -/
theorem mapM_eq_error_iff {f : α → Except ε β} {xs : List α} {e : ε} :
    xs.mapM f = .error e ↔
      ∃ x, IsFirstWithout (fun y => ∃ r, f y = .ok r) xs x ∧ f x = .error e := by
  induction xs with
  | nil => simp [pure, Except.pure, not_isFirstWithout_nil]
  | cons first rest ih =>
    rw [List.mapM_cons]
    simp only [isFirstWithout_cons_iff]
    cases hfirst : f first with
    | error e' => simp [bind, Except.bind, hfirst]
    | ok value =>
      cases hrest : rest.mapM f with
      | error e' =>
        rw [hrest] at ih
        simpa [bind, Except.bind, hfirst, hrest] using ih
      | ok values =>
        rw [hrest] at ih
        simpa [bind, Except.bind, pure, Except.pure, hfirst, hrest] using ih

end LooseRecords
