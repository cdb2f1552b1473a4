import LooseRecords.Proofs.Checks
import LooseRecords.Proofs.Json.NumberText
import LooseRecords.Proofs.Query.Requests
import LooseRecords.Proofs.Schema.Columns
import LooseRecords.Shorthand

/-!
# Shorthands in a row

Shorthands are read one after the other, and each is turned down if its field was named before.
What comes of this can be said of all of them at once: every one of them is read, and no two name
the same field (`Shorthand.readAll_eq_ok_iff`).  The step is the same wherever entries are added to
others under keys that must be new, so it is stated for entries of any kind
(`Entries.freshIn_cons_iff`).
-/

namespace LooseRecords

namespace Entries

variable {α : Type}

/-- Whether entries can be added to others without any key coming up twice, neither among them nor
against those that are there. -/
def FreshIn (entries more : Entries α) : Prop :=
  (keys more).Nodup ∧ ∀ key ∈ keys more, key ∉ keys entries

/-- Adding entries one by one asks of each that its key is not among those that are there by then.
-/
theorem freshIn_cons_iff {entries rest : Entries α} {entry : String × α} :
    FreshIn entries (entry :: rest) ↔
      entry.1 ∉ keys entries ∧ FreshIn (entries ++ [entry]) rest := by
  have hkeys : keys (entries ++ [entry]) = keys entries ++ [entry.1] := List.map_append
  simp only [FreshIn, keys_cons, List.nodup_cons, List.forall_mem_cons, hkeys, List.mem_append,
    List.mem_singleton, not_or]
  constructor
  · rintro ⟨⟨hentry, hrest⟩, hfresh, hothers⟩
    refine ⟨hfresh, hrest, fun key hkey => ⟨hothers key hkey, ?_⟩⟩
    rintro rfl
    exact hentry hkey
  · rintro ⟨hfresh, hrest, hothers⟩
    exact ⟨⟨fun hentry => (hothers entry.1 hentry).2 rfl, hrest⟩, hfresh,
      fun key hkey => (hothers key hkey).1⟩

theorem freshIn_nil (entries : Entries α) : FreshIn entries [] :=
  ⟨List.nodup_nil, by simp [keys]⟩

end Entries

namespace Shorthand

/-- One more shorthand is accepted where it is read and its field is new. -/
theorem add_eq_ok_iff {requests out : List (String × Request)} {s : String} :
    add requests s = .ok out ↔
      ∃ request, read s = .ok request ∧ request.1 ∉ Entries.keys requests ∧
        out = requests ++ [request] := by
  have hmem (name : String) : requests.any (·.1 = name) = true ↔ name ∈ Entries.keys requests := by
    simp [Entries.keys]
  rw [add, bind_eq_ok_iff]
  refine exists_congr fun request => and_congr_right fun _ => ?_
  by_cases hnamed : request.1 ∈ Entries.keys requests
  · simp [(hmem request.1).2 hnamed, hnamed]
  · rw [if_neg (fun h => hnamed ((hmem request.1).1 h))]
    simp [hnamed, eq_comm]

/-- Shorthands are added to those before them if each is read and the fields are new. -/
theorem foldlM_add_eq_ok_iff {texts : List String} {requests out : List (String × Request)} :
    texts.foldlM add requests = .ok out ↔
      ∃ more, List.Forall₂ (fun s request => read s = .ok request) texts more ∧
        Entries.FreshIn requests more ∧ out = requests ++ more := by
  induction texts generalizing requests with
  | nil =>
    simp only [List.foldlM_nil, List.forall₂_nil_left_iff, exists_eq_left, List.append_nil,
      Entries.freshIn_nil, true_and]
    simp [pure, Except.pure, eq_comm]
  | cons s rest ih =>
    rw [List.foldlM_cons, bind_eq_ok_iff]
    simp only [add_eq_ok_iff, ih, List.forall₂_cons_left_iff]
    constructor
    · rintro ⟨_, ⟨request, hread, hnew, rfl⟩, more, hmore, hfresh, rfl⟩
      exact ⟨request :: more, ⟨request, more, hread, hmore, rfl⟩,
        Entries.freshIn_cons_iff.2 ⟨hnew, hfresh⟩, by simp⟩
    · rintro ⟨_, ⟨request, more, hread, hmore, rfl⟩, hfresh, rfl⟩
      obtain ⟨hnew, hfresh⟩ := Entries.freshIn_cons_iff.1 hfresh
      exact ⟨_, ⟨request, hread, hnew, rfl⟩, more, hmore, hfresh, by simp⟩

/-- Shorthands are accepted exactly if each of them is read and no two of them name the same field;
they keep their order. -/
theorem readAll_eq_ok_iff {texts : List String} {requests : List (String × Request)} :
    readAll texts = .ok requests ↔
      List.Forall₂ (fun s request => read s = .ok request) texts requests ∧
        (Entries.keys requests).Nodup := by
  rw [readAll, foldlM_add_eq_ok_iff]
  simp [Entries.FreshIn, Entries.keys]

end Shorthand

/-! ### One shorthand -/

/-- The sign of an operator. -/
def Operator.sign : Operator → Char
  | eq => '='
  | gt => '>'
  | lt => '<'

namespace Shorthand

open Text (trimChars)

theorem operatorOfSign?_sign (op : Operator) : operatorOfSign? op.sign = some op := by
  cases op <;> rfl

theorem isSign_sign (op : Operator) : isSign op.sign = true := by
  cases op <;> rfl

theorem isBlank_sign (op : Operator) : Text.isBlank op.sign = false := by
  cases op <;> rfl

/-- A name without signs ends at the first sign. -/
theorem splitAtSign?_append {name operand : List Char} (hname : ∀ c ∈ name, isSign c = false)
    {sign : Char} (hsign : isSign sign = true) :
    splitAtSign? (name ++ sign :: operand) = some ⟨name, sign, operand⟩ := by
  have hnot : ∀ c ∈ name, (!isSign c) = true := fun c hc => by rw [hname c hc]; rfl
  unfold splitAtSign?
  rw [List.dropWhile_append_of_pos hnot, List.takeWhile_append_of_pos hnot,
    List.dropWhile_cons_of_neg (by simp [hsign]), List.takeWhile_cons_of_neg (by simp [hsign]),
    List.append_nil]

/-- A name without blanks and signs, the sign of an operator and any operand are read as a condition
on this name, unless the sign with the operand looks like one that is not supported. -/
theorem read_of_toList_eq {name text : String} {operand : List Char} (hne : name.toList ≠ [])
    (hname : ∀ c ∈ name.toList, Text.isBlank c = false ∧ isSign c = false) (op : Operator)
    (hoperand : op = .eq ∨ operand.head? ≠ some '=')
    (htext : text.toList = name.toList ++ op.sign :: operand) :
    read text = .ok (name, ⟨op, operandOf (trimChars operand)⟩) := by
  obtain ⟨first, others, hfirst⟩ := List.exists_cons_of_ne_nil hne
  obtain ⟨kept, blanks, rfl, hkept, hblanks⟩ := Text.exists_append_blanks operand
  -- What is left of the text ends with what is left of the operand, or with the sign.
  have htrimmed : trimChars text.toList = name.toList ++ op.sign :: kept := by
    rw [htext, ← List.cons_append, ← List.append_assoc, Text.trimChars_append_blanks hblanks]
    apply trimChars_eq_self
    · rw [hfirst]
      rintro c ⟨⟩
      exact (hname first (hfirst ▸ List.mem_cons_self)).1
    · rw [List.getLast?_append_of_ne_nil _ (List.cons_ne_nil _ _), List.getLast?_cons]
      cases hlast : kept.getLast? with
      | none =>
        rintro c ⟨⟩
        exact isBlank_sign op
      | some last =>
        rintro c ⟨⟩
        exact hkept last hlast
  have hsupported : ¬(op.sign ≠ '=' ∧ kept.head? = some '=') := by
    rintro ⟨hsign, hhead⟩
    rcases hoperand with rfl | hoperand
    · exact hsign rfl
    · exact hoperand (by rw [List.head?_append, hhead, Option.some_or])
  have hfield : trimChars name.toList = name.toList := by
    apply trimChars_eq_self
    · exact fun c hc => (hname c (List.mem_of_mem_head? hc)).1
    · exact fun c hc => (hname c (List.mem_of_getLast? hc)).1
  have hstart : name.toList ++ op.sign :: kept ≠ [] := List.append_ne_nil_of_left_ne_nil hne _
  rw [read, htrimmed, readTrimmed, if_neg hstart,
    splitAtSign?_append (fun c hc => (hname c hc).2) (isSign_sign op)]
  dsimp only
  rw [if_neg hsupported, operatorOfSign?_sign]
  dsimp only
  rw [hfield, if_neg hne, String.ofList_toList, Text.trimChars_append_blanks hblanks]

/-! ### Operands -/

/-- What stands between quotes is a string, whatever it is. -/
theorem operandOf_quoted {quote : Char} (hquote : quote = '"' ∨ quote = '\'') (inner : List Char) :
    operandOf (trimChars (quote :: (inner ++ [quote]))) = .string (String.ofList inner) := by
  have hblank : Text.isBlank quote = false := by rcases hquote with rfl | rfl <;> rfl
  have htrimmed : trimChars (quote :: (inner ++ [quote])) = quote :: (inner ++ [quote]) := by
    apply trimChars_eq_self
    · rintro c ⟨⟩
      exact hblank
    · rw [← List.cons_append, List.getLast?_concat]
      rintro c ⟨⟩
      exact hblank
  have hunquote : unquote? (quote :: (inner ++ [quote])) = some inner := by
    rw [unquote?, if_pos ⟨hquote, List.getLast?_concat⟩, List.dropLast_concat]
  rw [htrimmed, operandOf, hunquote]

/-- A JSON number is an operand that is this number, white space around it left aside.  It does not
start with an equality sign. -/
theorem operandOf_number {cs : List Char} {n : Json.Number}
    (h : Json.ofSymbols (cs.map .char) = .ok (.number n)) :
    operandOf (trimChars cs) = .number n ∧ cs.head? ≠ some '=' := by
  obtain ⟨p, before, word, after, rfl, hbefore, hafter, hspells, hn⟩ :=
    Json.exists_spells_of_ofSymbols h
  have htrimmed : trimChars (before ++ word ++ after) = word := by
    rw [Text.trimChars_append_blanks fun c hc => Json.isBlank_of_isSpace (hafter c hc),
      Text.trimChars_blanks_append fun c hc => Json.isBlank_of_isSpace (hbefore c hc),
      hspells.trimChars]
  have halone := hspells.ofSymbols_eq hn
  obtain ⟨c, others, rfl, hstart⟩ := hspells.startsNumber
  constructor
  · have hunquote : unquote? (c :: others) = none := by
      rw [unquote?, if_neg]
      rintro ⟨rfl | rfl, -⟩ <;> rcases hstart with hminus | hdigit <;> contradiction
    rw [htrimmed, operandOf, hunquote]
    dsimp only
    rw [halone]
  · cases before with
    | nil =>
      intro hhead
      cases hhead
      exact Json.ne_of_startsNumber hstart (by decide) (by decide) rfl
    | cons d rest =>
      intro hhead
      cases hhead
      have hspace := hbefore '=' List.mem_cons_self
      contradiction

end Shorthand
end LooseRecords
