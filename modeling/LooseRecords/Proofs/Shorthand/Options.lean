import LooseRecords.Proofs.CommandLine.FieldShorthands
import LooseRecords.Proofs.Json.Words
import LooseRecords.Proofs.Number.Order
import LooseRecords.Proofs.Query.CoercedEquality
import LooseRecords.Proofs.Shorthand.Grammar

/-!
# Options as they are listed

An option of a category can be typed after the name of its field and an equality sign.  It then
passes through the reader of operands, which takes a truth value or a number for what it is, and the
operand is made a text again when it is compared.  On the way back a truth value is the word it was.
A number is written in its plain form, so what is asked for is the option in this form
(`Shorthand.Asks`, `exists_query_of_option`): an option such as `1.0` has to be put in quotes.  So has an
option that is the plain text of the nearest number, but is read in steps that lead to the next one.
-/

namespace LooseRecords

/-- The plain text of a JSON number is a token. -/
theorem Json.Number.normalize_toText (n : Json.Number) :
    Token.normalize (n.toBinary64.toText .plain) = n.toBinary64.toText .plain := by
  obtain ⟨x, hx, -⟩ := n.exists_toBinary64_eq
  rw [hx]
  exact Layout.plain.normalize_write x

namespace Shorthand

/-! ### Typed options -/

/-- The token that is asked for by typing a text: the plain text of the number that is read, and
otherwise the text itself. -/
def Asks (o token : String) : Prop :=
  (∀ n, Json.parse o = .ok (.number n) → token = n.toBinary64.toText .plain) ∧
    ((∀ n, Json.parse o ≠ .ok (.number n)) → token = o)

/-- A settled text that is neither quoted nor null denotes a scalar whose token is asked for by
typing it. -/
theorem normalize_toText?_of_denotes {o : String} (hsettled : Token.normalize o = o)
    (hnull : o ≠ "null") (hquoted : ¬Quoted o.toList) {operand : Json}
    (h : Denotes o.toList operand) :
    (operand.kind ≠ .array ∧ operand.kind ≠ .object) ∧
      ∃ token, (Scalar.ofJson operand).toText?.map Token.normalize = some token ∧ Asks o token := by
  have htrimmed := Token.trimChars_eq_self_of_normalize hsettled
  have hunique {n : Json.Number} {value : Json} (hvalue : Json.parse o = .ok value)
      (hn : Json.parse o = .ok (.number n)) : value = .number n :=
    Except.ok.inj (hvalue.symm.trans hn)
  cases h with
  | quoted hquote ho => exact absurd ⟨_, _, hquote, ho⟩ hquoted
  | bare _ hparse hbare =>
    rw [String.ofList_toList] at hparse
    cases operand with
    | null =>
      have hword : o.toList = Json.nullChars :=
        Json.toList_eq_of_parse htrimmed (show Json.IsWord .null from trivial) hparse
      exact absurd (String.toList_injective hword) hnull
    | bool b =>
      have hword : o.toList = Json.boolChars b :=
        Json.toList_eq_of_parse htrimmed (show Json.IsWord (.bool b) from trivial) hparse
      have htext : String.ofList (Json.boolChars b) = o := by rw [← hword, String.ofList_toList]
      refine ⟨by simp [Json.kind], o, ?_, fun n hn => ?_, fun _ => rfl⟩
      · rw [Scalar.ofJson, Scalar.toText?, htext, Option.map_some, hsettled]
      · cases hunique hparse hn
    | number n =>
      refine ⟨by simp [Json.kind], n.toBinary64.toText .plain, ?_, fun n' hn => ?_, fun h => ?_⟩
      · rw [Scalar.ofJson, Scalar.toText?, Option.map_some, n.normalize_toText]
      · cases hunique hparse hn
        rfl
      · exact absurd hparse (h n)
    | string | array | object => cases hbare
  | text _ hbare =>
    rw [String.ofList_toList] at hbare ⊢
    refine ⟨by simp [Json.kind], o, ?_, fun n hn => absurd trivial (hbare _ hn), fun _ => rfl⟩
    rw [Scalar.ofJson, Scalar.toText?, Option.map_some, hsettled]

/-- No text but the empty one asks for the empty token. -/
theorem Asks.ne_empty {o token : String} (h : Asks o token) (hne : o ≠ "") : token ≠ "" := by
  by_cases hnumber : ∃ n, Json.parse o = .ok (.number n)
  · obtain ⟨n, hn⟩ := hnumber
    have hblank := n.toBinary64.isBlankText_toText .plain
    rw [h.1 n hn]
    intro hempty
    rw [hempty] at hblank
    cases hblank
  · rw [h.2 fun n hn => hnumber ⟨n, hn⟩]
    exact hne

end Shorthand

/-- The name of an inferred field, an equality sign and a trimmed text are read as the condition
that the field is equal to what the text denotes. -/
theorem Schema.read_equality {limits : Thresholds} {records : List RawRecord} {n : String}
    (hn : n ∈ (infer limits records).names) {o : String}
    (htrimmed : Text.trimChars o.toList = o.toList) :
    Shorthand.read (n ++ "=" ++ o) = .ok (n, ⟨.eq, Shorthand.operandOf o.toList⟩) := by
  obtain ⟨hne, hcharacters⟩ := characters_of_mem_names_infer hn
  have htext : (n ++ "=" ++ o).toList = n.toList ++ Operator.eq.sign :: o.toList := by
    simp [Operator.sign]
  rw [Shorthand.read_of_toList_eq hne hcharacters .eq (.inl rfl) htext, htrimmed]

/-! ### Queries -/

/-- The rows that have an option under a name. -/
def optionRows (records : List RawRecord) (s : Schema) (name token : String) : List TypedRecord :=
  (coerceAll records s).filter fun row => row.get? name = some (.option token)

/-- An option that is neither empty nor null nor quoted can be typed after the name of its field and
an equality sign.  The shorthand is read, its clause is accepted, and the answer is the rows that
have the token that is asked for. -/
theorem exists_query_of_option {limits : Thresholds} {records : List RawRecord} {f : Field}
    (hf : f ∈ (Schema.infer limits records).fields) (htype : f.type = .option) {o : String}
    (ho : o ∈ f.options) (hne : o ≠ "") (hnull : o ≠ "null")
    (hquoted : ¬Shorthand.Quoted o.toList) :
    ∃ requests c token, Shorthand.readAll [f.name ++ "=" ++ o] = .ok requests ∧
      WhereClause.ofJson (.object (Shorthand.entries requests)) = .ok c ∧
      query records (.infer limits records) c =
        .ok (optionRows records (.infer limits records) f.name token) ∧
      Shorthand.Asks o token := by
  have hnodup : (Schema.infer limits records).names.Nodup := Schema.nodup_names_infer limits records
  have hsettled : Token.normalize o = o := by
    obtain ⟨r, -, raw, -, htoken⟩ := (Schema.mem_options_iff hf htype).1 ho
    obtain ⟨text, -, rfl⟩ := Option.map_eq_some_iff.1 htoken
    exact Token.normalize_normalize text
  have hread : Shorthand.read (f.name ++ "=" ++ o) =
      .ok (f.name, ⟨.eq, Shorthand.operandOf o.toList⟩) :=
    Schema.read_equality (List.mem_map_of_mem hf)
      (Token.trimChars_eq_self_of_normalize hsettled)
  obtain ⟨hscalar, token, htoken, hasks⟩ := Shorthand.normalize_toText?_of_denotes hsettled hnull
    hquoted (Shorthand.denotes_operandOf o.toList)
  generalize Shorthand.operandOf o.toList = operand at hread hscalar htoken
  have hcoerce : (Scalar.ofJson operand).coerce f.type = .option token := by
    rw [htype, Scalar.coerce_option_eq_iff]
    exact ⟨htoken, hasks.ne_empty hne⟩
  refine ⟨[(f.name, ⟨.eq, operand⟩)], ⟨[(f.name, ⟨.eq, operand⟩)]⟩, token,
    Shorthand.readAll_eq_ok_iff.2 ⟨.cons hread .nil, by simp [Entries.keys]⟩,
    WhereClause.ofJson_singleton _ _, ?_, hasks⟩
  have hquery := queryField_eq_filter_coerce (Schema.field?_of_mem hnodup hf) (.inr htype) hscalar
    (by rw [hcoerce]; simp) records
  rw [hcoerce] at hquery
  exact hquery

/-- Every option of a category has rows, the empty one apart. -/
theorem optionRows_ne_nil {limits : Thresholds} {records : List RawRecord} {f : Field}
    (hf : f ∈ (Schema.infer limits records).fields) (htype : f.type = .option) {o : String}
    (ho : o ∈ f.options) (hne : o ≠ "") :
    optionRows records (.infer limits records) f.name o ≠ [] := by
  obtain ⟨row, hrow, hcell⟩ : ∃ row ∈ coerceAll records (.infer limits records),
      row.get? f.name = some (.option o) :=
    (exists_option_cell_iff (Schema.nodup_names_infer limits records) hf htype).2
      ⟨(Schema.mem_options_iff hf htype).1 ho, hne⟩
  exact List.ne_nil_of_mem (List.mem_filter.2 ⟨hrow, by simpa using hcell⟩)

/-- No row has two options. -/
theorem optionRows_eq_iff {records : List RawRecord} {s : Schema} {name o token : String}
    (hne : optionRows records s name o ≠ []) :
    optionRows records s name token = optionRows records s name o ↔ token = o := by
  constructor
  · intro h
    obtain ⟨row, hrow⟩ := List.exists_mem_of_ne_nil _ hne
    have hother : row ∈ optionRows records s name token := h ▸ hrow
    have htoken : row.get? name = some (.option token) :=
      of_decide_eq_true (List.mem_filter.1 hother).2
    have ho : row.get? name = some (.option o) := of_decide_eq_true (List.mem_filter.1 hrow).2
    rw [htoken] at ho
    cases ho
    rfl
  · rintro rfl
    rfl

/-- A listed option that is neither empty nor null nor quoted, typed after the name of its field
and an equality sign, is a query that is answered.  Where the option is not read as a JSON number, the
answer is the rows that have the option.  Where it is, the answer is the rows that have the plain text
of the number that is read, so it is the rows that have the option if and only if the option is this
plain text. -/
theorem query_of_listed_option (limits : Thresholds) (records : List RawRecord) (f : Field)
    (hf : f ∈ (Schema.infer limits records).fields) (htype : f.type = .option) (o : String)
    (ho : o ∈ f.options) (hne : o ≠ "") (hnull : o ≠ "null")
    (hquoted : ¬Shorthand.Quoted o.toList) :
    let s := Schema.infer limits records
    ∃ requests c rows, Shorthand.readAll [f.name ++ "=" ++ o] = .ok requests ∧
      WhereClause.ofJson (.object (Shorthand.entries requests)) = .ok c ∧
      query records s c = .ok rows ∧
      ((∀ n, Json.parse o ≠ .ok (.number n)) → rows = optionRows records s f.name o) ∧
      (∀ n, Json.parse o = .ok (.number n) →
        rows = optionRows records s f.name (n.toBinary64.toText .plain)) ∧
      (rows = optionRows records s f.name o ↔
        ∀ n, Json.parse o = .ok (.number n) → n.toBinary64.toText .plain = o) := by
  intro s
  obtain ⟨requests, c, token, hrequests, hclause, hquery, hnumber, hother⟩ :=
    exists_query_of_option hf htype ho hne hnull hquoted
  refine ⟨requests, c, _, hrequests, hclause, hquery, fun h => by rw [hother h],
    fun n hn => by rw [hnumber n hn], ?_⟩
  rw [optionRows_eq_iff (optionRows_ne_nil hf htype ho hne)]
  constructor
  · rintro rfl n hn
    exact (hnumber n hn).symm
  · intro h
    by_cases hn : ∃ n, Json.parse o = .ok (.number n)
    · obtain ⟨n, hn⟩ := hn
      rw [hnumber n hn, h n hn]
    · exact hother fun n hparse => hn ⟨n, hparse⟩

/-- The word for a truth value is an option that is found when it is typed as a truth value. -/
theorem query_of_listed_option_true :
    let records : List RawRecord := [" True ", "maybe"].map fun text =>
      .ofJson (.object [("Answer", .string text)])
    let f : Field := ⟨"Answer", "answer", .option, ["true", "maybe"]⟩
    let s := Schema.infer {} records
    f ∈ s.fields ∧ f.type = .option ∧ "true" ∈ f.options ∧ "true" ≠ "" ∧ "true" ≠ "null" ∧
      ¬Shorthand.Quoted "true".toList ∧
      ∃ requests c, Shorthand.readAll ["answer=true"] = .ok requests ∧
        WhereClause.ofJson (.object (Shorthand.entries requests)) = .ok c ∧
        query records s c = .ok (optionRows records s "answer" "true") := by
  intro records f s
  have hf : f ∈ s.fields := by decide +kernel
  have ho : "true" ∈ f.options := by decide
  have hquoted : ¬Shorthand.Quoted "true".toList := Shorthand.not_quoted_of_head (by decide) _
  obtain ⟨requests, c, rows, hrequests, hclause, hquery, hrows, -⟩ :=
    query_of_listed_option {} records f hf rfl "true" ho (by decide) (by decide) hquoted
  have hword : (Json.parse "true").map Json.kind = .ok .boolean := by decide +kernel
  have hnumber : ∀ n, Json.parse "true" ≠ .ok (.number n) := by
    intro n hn
    rw [hn] at hword
    cases hword
  rw [hrows hnumber] at hquery
  exact ⟨hf, rfl, ho, by decide, by decide, hquoted, requests, c, hrequests, hclause, hquery⟩

/-- An option that the steps of reading turn into another number. -/
example : (Json.parse "0.9452706955539223").map (fun value => (Scalar.ofJson value).toText?) =
    .ok (some "0.9452706955539224") := by
  decide +kernel

/-- A version is an option that no row is found by when it is typed: it is taken for a number, whose
plain text is another token. -/
theorem listed_option_not_found :
    let records : List RawRecord := ["1.0", "beta"].map fun text =>
      .ofJson (.object [("version", .string text)])
    let f : Field := ⟨"version", "version", .option, ["1.0", "beta"]⟩
    let s := Schema.infer {} records
    f ∈ s.fields ∧ f.type = .option ∧ "1.0" ∈ f.options ∧ "1.0" ≠ "" ∧ "1.0" ≠ "null" ∧
      ¬Shorthand.Quoted "1.0".toList ∧ optionRows records s "version" "1.0" ≠ [] ∧
      ∃ requests c, Shorthand.readAll ["version=1.0"] = .ok requests ∧
        WhereClause.ofJson (.object (Shorthand.entries requests)) = .ok c ∧
        query records s c = .ok [] := by
  intro records f s
  have hf : f ∈ s.fields := by decide +kernel
  have ho : "1.0" ∈ f.options := by decide
  have hquoted : ¬Shorthand.Quoted "1.0".toList := Shorthand.not_quoted_of_head (by decide) _
  obtain ⟨requests, c, token, hrequests, hclause, hquery, hnumber, -⟩ :=
    exists_query_of_option hf rfl ho (by decide) (by decide) hquoted
  have hvalue : (Json.parse "1.0").map (fun value => (Scalar.ofJson value).toText?) =
      .ok (some "1") := by
    decide +kernel
  have hkind : (Json.parse "1.0").map Json.kind = .ok .number := by decide +kernel
  obtain ⟨n, hn⟩ : ∃ n, Json.parse "1.0" = .ok (.number n) := by
    obtain ⟨value, hvalue, hkind⟩ := map_eq_ok_iff.1 hkind
    cases value with
    | number n => exact ⟨n, hvalue⟩
    | _ => cases hkind
  have htoken : token = "1" := by
    rw [hn] at hvalue
    rw [hnumber n hn]
    exact Option.some.inj (Except.ok.inj hvalue)
  have hnone : optionRows records s f.name "1" = [] := by decide +kernel
  rw [htoken, hnone] at hquery
  exact ⟨hf, rfl, ho, by decide, by decide, hquoted, optionRows_ne_nil hf rfl ho (by decide),
    requests, c, hrequests, hclause, hquery⟩

end LooseRecords
