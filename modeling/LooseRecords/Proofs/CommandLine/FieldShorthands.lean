import LooseRecords.Proofs.CommandLine.Clauses
import LooseRecords.Proofs.Schema.Inferred

/-!
# Every inferred field has a shorthand

The names of inferred fields are made of the forms of word characters and of digits, so whatever the
keys of the records are, no sign of an operator is in a name.  A shorthand therefore ends the name
where it should, and its operand may hold anything.
-/

namespace LooseRecords

open CommandLine (QueryArguments)

/-! ### Names without signs -/

namespace Shorthand

/-- The code points of the signs. -/
def signCharacters : Text.CodeRanges :=
  [(0x21, 0x21), (0x3C, 0x3E)]

theorem isSign_eq_false {c : Char} (h : signCharacters.contains c.toNat = false) :
    isSign c = false := by
  by_contra hsign
  simp only [isSign, Bool.not_eq_false, Bool.or_eq_true, decide_eq_true_eq] at hsign
  rcases hsign with ((rfl | rfl) | rfl) | rfl <;> revert h <;> decide

/-- No word character is a sign. -/
theorem wordCharacters_apart_signCharacters :
    Text.wordCharacters.runs.apart signCharacters.runs = true := by
  decide +kernel

/-- No small or capital form is a sign, unless it is that of a sign. -/
theorem closedToForms_signCharacters : Text.ClosedToForms signCharacters where
  small := by decide +kernel
  capital := by decide +kernel
  long := by decide +kernel
  others := List.forall_iff_forall_mem.1 (by decide)

end Shorthand

/-- The names of an inferred schema have neither blanks nor signs in them, and are not empty. -/
theorem Schema.characters_of_mem_names_infer {limits : Thresholds} {records : List RawRecord}
    {n : String} (hn : n ∈ (infer limits records).names) :
    n.toList ≠ [] ∧ ∀ c ∈ n.toList, Text.isBlank c = false ∧ Shorthand.isSign c = false := by
  unfold infer names at hn
  rw [List.map_map] at hn
  obtain ⟨f, hf, rfl⟩ := List.mem_map.1 hn
  obtain ⟨taken, position, hname⟩ := InferredField.exists_allocate_of_mem_ofColumns hf
  show f.name.toList ≠ [] ∧ ∀ c ∈ f.name.toList, _
  rw [hname]
  refine ⟨Naming.allocate_ne_nil taken f.display position, fun c hc => ⟨?_, ?_⟩⟩
  · exact Naming.isBlank_of_mem_allocate c hc
  · exact Shorthand.isSign_eq_false (Naming.contains_of_mem_allocate
      Shorthand.wordCharacters_apart_signCharacters Shorthand.closedToForms_signCharacters c hc)

/-! ### Queries -/

namespace Run

/-- A shorthand that stands alone makes the clause of its condition. -/
theorem whereValue_of_shorthand {files : Files} {a : QueryArguments} {text n : String} {q : Request}
    (htext : a.whereText = none) (hfile : a.whereFile = none) (hfilters : a.filters = [text])
    (hread : Shorthand.read text = .ok (n, q)) :
    whereValue files a = .ok (.object [(n, q.toJson)]) := by
  have hgiven : givenWhere files a = .ok none := by rw [givenWhere, htext, hfile]
  have hall : Shorthand.readAll a.filters = .ok [(n, q)] := by
    rw [hfilters, Shorthand.readAll_eq_ok_iff]
    exact ⟨.cons hread .nil, by simp [Entries.keys]⟩
  exact (whereValue_eq_ok_iff hgiven).2 ⟨_, hall, rfl⟩

/-- A clause that is written out alone is taken as it is. -/
theorem whereValue_of_parse {files : Files} {a : QueryArguments} {clause : String} {w : Json}
    (htext : a.whereText = some clause) (hfilters : a.filters = [])
    (hparse : Json.parse clause = .ok w) : whereValue files a = .ok w := by
  have hgiven : givenWhere files a = .ok (some w) := by
    simp only [givenWhere, htext]
    rw [hparse]
    rfl
  refine (whereValue_eq_ok_iff hgiven).2 ⟨[], by rw [hfilters]; rfl, ?_⟩
  cases w <;> rfl

/-- A query depends on its clause and not on how this is written. -/
theorem query_congr {around : Surroundings} {a a' : QueryArguments}
    (hcommon : a.toCommonArguments = a'.toCommonArguments)
    (hothers : (a.schema, a.limit, a.compact) = (a'.schema, a'.limit, a'.compact))
    (hwhere : whereValue around.files a = whereValue around.files a') :
    query around a = query around a' := by
  obtain ⟨common, whereText, whereFile, filters, schema, limit, compact⟩ := a
  obtain ⟨common', whereText', whereFile', filters', schema', limit', compact'⟩ := a'
  cases hcommon
  cases hothers
  unfold query
  rw [hwhere]
  rfl

end Run

/-- Every field of an inferred schema can be named in a shorthand, whatever the keys of the records
are.  With an equality sign after the name and any text in quotes of either kind, the shorthand is
the condition that the field equals this text; with another sign and any text that JSON reads as a
number, it compares the field with this number.  And a query with a shorthand is the query with the
clause of its condition. -/
theorem Schema.shorthand_of_inferred_name (limits : Thresholds) (records : List RawRecord)
    {n : String} (hn : n ∈ (infer limits records).names) :
    (∀ s : String,
      Shorthand.read (n ++ "=" ++ "\"" ++ s ++ "\"") = .ok (n, ⟨.eq, .string s⟩) ∧
        Shorthand.read (n ++ "=" ++ "'" ++ s ++ "'") = .ok (n, ⟨.eq, .string s⟩)) ∧
    (∀ (t : String) (x : Json.Number), Json.parse t = .ok (.number x) →
      Shorthand.read (n ++ ">" ++ t) = .ok (n, ⟨.gt, .number x⟩) ∧
        Shorthand.read (n ++ "<" ++ t) = .ok (n, ⟨.lt, .number x⟩)) ∧
    ∀ (shorthand : String) (op : Operator) (operand : Json),
      Shorthand.read shorthand = .ok (n, ⟨op, operand⟩) →
      ∀ (around : Surroundings) (a : QueryArguments),
        let alone := { a with whereText := none, whereFile := none, filters := [shorthand] }
        Run.whereValue around.files alone = .ok (.object [(n, .object [(op.name, operand)])]) ∧
          ∀ clause, Json.parse clause = .ok (.object [(n, .object [(op.name, operand)])]) →
            Run.query around alone = Run.query around
              { a with whereText := some clause, whereFile := none, filters := [] } := by
  obtain ⟨hne, hcharacters⟩ := characters_of_mem_names_infer hn
  refine ⟨fun s => ?_, fun t x ht => ?_, fun shorthand op operand hread around a => ?_⟩
  · have hquoted {quote : Char} (hquote : quote = '"' ∨ quote = '\'') {text : String}
        (htext : text.toList = n.toList ++ '=' :: quote :: (s.toList ++ [quote])) :
        Shorthand.read text = .ok (n, ⟨.eq, .string s⟩) := by
      rw [Shorthand.read_of_toList_eq hne hcharacters .eq (.inl rfl) htext,
        Shorthand.operandOf_quoted hquote, String.ofList_toList]
    exact ⟨hquoted (.inl rfl) (by simp), hquoted (.inr rfl) (by simp)⟩
  · obtain ⟨hoperand, hhead⟩ := Shorthand.operandOf_number ht
    have hnumber (op : Operator) {text : String}
        (htext : text.toList = n.toList ++ op.sign :: t.toList) :
        Shorthand.read text = .ok (n, ⟨op, .number x⟩) := by
      rw [Shorthand.read_of_toList_eq hne hcharacters op (.inr hhead) htext, hoperand]
    exact ⟨hnumber .gt (by simp [Operator.sign]), hnumber .lt (by simp [Operator.sign])⟩
  · intro alone
    have halone : Run.whereValue around.files alone =
        .ok (.object [(n, .object [(op.name, operand)])]) :=
      Run.whereValue_of_shorthand rfl rfl rfl hread
    refine ⟨halone, fun clause hclause => Run.query_congr rfl rfl ?_⟩
    rw [halone, Run.whereValue_of_parse rfl rfl hclause]

/-- The name comes from a key with signs in it, the operand has signs, quotes and blanks of its own,
and the number has white space around it. -/
theorem Schema.shorthand_of_inferred_name_signs :
    let r := RawRecord.ofJson (.object [("=Größe> in \uFB01t!", .null)])
    "größeInFIt" ∈ (infer {} [r]).names ∧
      Shorthand.read "größeInFIt='a >= \"b\" '" = .ok ("größeInFIt", ⟨.eq, .string "a >= \"b\" "⟩) ∧
      ∃ x, Json.parse "\t-1.5e2\n" = .ok (.number x) ∧
        Shorthand.read "größeInFIt<\t-1.5e2\n" = .ok ("größeInFIt", ⟨.lt, .number x⟩) := by
  intro r
  have hn : "größeInFIt" ∈ (infer {} [r]).names := by decide +kernel
  obtain ⟨value, hvalue⟩ : ∃ value, Json.parse "\t-1.5e2\n" = .ok value :=
    exists_eq_ok_of_isOk (by decide +kernel)
  have hkind : (Json.parse "\t-1.5e2\n").map Json.kind = .ok .number := by decide +kernel
  rw [hvalue] at hkind
  obtain ⟨x, rfl⟩ : ∃ x, value = .number x := by
    cases value with
    | number x => exact ⟨x, rfl⟩
    | _ => cases hkind
  obtain ⟨hquoted, hnumber, -⟩ := shorthand_of_inferred_name {} [r] hn
  exact ⟨hn, (hquoted "a >= \"b\" ").2, x, hvalue, (hnumber "\t-1.5e2\n" x hvalue).2⟩

end LooseRecords
