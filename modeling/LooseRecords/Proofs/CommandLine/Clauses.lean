import LooseRecords.Proofs.CommandLine.Run
import LooseRecords.Proofs.Shorthand

/-!
# Clauses put together from several sources

The clause of a query is what is written out as JSON, with the conditions of the shorthands added to
it.  Adding stops at the first field that is there already, so a clause comes about only where no
condition takes the place of another: then it has the entries that are written out, and after them
one entry for each shorthand (`Run.whereValue_keeps_conditions`).
-/

namespace LooseRecords

open CommandLine (QueryArguments)

namespace Run

/-- Conditions are added exactly if all their fields are new, and then stand at the end in their
order. -/
theorem addEntries_eq_ok_iff {entries more merged : List (String × Json)} :
    addEntries entries more = .ok merged ↔
      Entries.FreshIn entries more ∧ merged = entries ++ more := by
  induction more generalizing entries with
  | nil => simp [addEntries, Entries.freshIn_nil, eq_comm]
  | cons entry rest ih =>
    have hmem : Entries.contains entries entry.1 = true ↔ entry.1 ∈ Entries.keys entries := by
      simp [Entries.contains, Entries.keys]
    rw [addEntries, Entries.freshIn_cons_iff]
    by_cases hnamed : entry.1 ∈ Entries.keys entries
    · simp [hmem.2 hnamed, hnamed]
    · rw [if_neg (fun h => hnamed (hmem.1 h)), ih]
      simp [hnamed]

/-- Conditions on different fields are merged with an object exactly if it has none of their fields.
Where nothing is written out, there is no field to clash with. -/
theorem mergeWhere_eq_ok_iff {given : Option Json} {entries more : List (String × Json)} {w : Json}
    (hgiven : given.getD (.object []) = .object entries) (hmore : (Entries.keys more).Nodup) :
    mergeWhere given more = .ok w ↔
      (∀ key ∈ Entries.keys more, key ∉ Entries.keys entries) ∧ w = .object (entries ++ more) := by
  cases given with
  | none =>
    cases hgiven
    simp [mergeWhere, Entries.keys, eq_comm]
  | some value =>
    cases hgiven
    rw [mergeWhere, map_eq_ok_iff]
    simp only [addEntries_eq_ok_iff, Entries.FreshIn, hmore, true_and, and_assoc, exists_and_left,
      exists_eq_left]
    rw [eq_comm]

/-- What is written out and is no object is left as it is. -/
theorem mergeWhere_of_kind_ne_object {value : Json} (h : value.kind ≠ .object)
    (more : List (String × Json)) : mergeWhere (some value) more = .ok value := by
  cases value with
  | object entries => exact absurd rfl h
  | _ => rfl

/-- A clause comes of what is written out and of shorthands that are all accepted. -/
theorem whereValue_eq_ok_iff {files : Files} {a : QueryArguments} {given : Option Json}
    (hgiven : givenWhere files a = .ok given) {w : Json} :
    whereValue files a = .ok w ↔
      ∃ requests, Shorthand.readAll a.filters = .ok requests ∧
        mergeWhere given (Shorthand.entries requests) = .ok w := by
  simp only [whereValue, bind_eq_ok_iff, hgiven, Except.ok.injEq, exists_eq_left',
    Failure.blame_eq_ok_iff]

/-- No condition is dropped or doubled when a clause is put together.  Let `given` be what is
written out, if anything is.

* If it is an object, or nothing is written out, there is a clause exactly if every shorthand is
  read, no two of them name the same field and none of them names a field of the object.  The clause
  has the entries of the object in their order and after them one entry for each shorthand.
* If it is anything else, it is handed on as it is once the shorthands are accepted, and then turned
  down for its kind.
* Shorthands alone, if there are any, are read back from the clause as they were read from their
  texts. -/
theorem whereValue_keeps_conditions {files : Files} {a : QueryArguments} {given : Option Json}
    (hgiven : givenWhere files a = .ok given) :
    (∀ entries, given.getD (.object []) = .object entries → ∀ w, whereValue files a = .ok w ↔
      ∃ requests, List.Forall₂ (fun s request => Shorthand.read s = .ok request) a.filters requests ∧
        (requests.map (·.1)).Nodup ∧
        (∀ request ∈ requests, request.1 ∉ entries.map (·.1)) ∧
        w = .object (entries ++ requests.map fun (field, q) =>
          (field, .object [(q.operator.name, q.operand)]))) ∧
    (∀ value, given = some value → value.kind ≠ .object →
      (∀ w, whereValue files a = .ok w ↔ w = value ∧
        ∃ requests, List.Forall₂ (fun s request => Shorthand.read s = .ok request) a.filters
          requests ∧ (requests.map (·.1)).Nodup) ∧
      WhereClause.ofJson value = .error (.malformedWhere value.kind)) ∧
    (given = none → a.filters ≠ [] → ∀ w, whereValue files a = .ok w →
      ∃ requests, List.Forall₂ (fun s request => Shorthand.read s = .ok request) a.filters
        requests ∧ WhereClause.ofJson w = .ok ⟨requests⟩) := by
  have hkeys (requests : List (String × Request)) :
      Entries.keys (Shorthand.entries requests) = requests.map (·.1) := by
    simp [Shorthand.entries, Entries.keys]
  have hobject : ∀ entries, given.getD (.object []) = .object entries → ∀ w,
      whereValue files a = .ok w ↔
        ∃ requests, List.Forall₂ (fun s request => Shorthand.read s = .ok request) a.filters
          requests ∧ (requests.map (·.1)).Nodup ∧
          (∀ request ∈ requests, request.1 ∉ entries.map (·.1)) ∧
          w = .object (entries ++ Shorthand.entries requests) := by
    intro entries hentries w
    rw [whereValue_eq_ok_iff hgiven]
    refine exists_congr fun requests => ?_
    rw [Shorthand.readAll_eq_ok_iff, and_assoc]
    refine and_congr_right fun _ => and_congr_right fun hnodup => ?_
    rw [mergeWhere_eq_ok_iff hentries (hkeys requests ▸ hnodup), hkeys]
    simp [Entries.keys]
  refine ⟨hobject, ?_, ?_⟩
  · rintro value rfl hkind
    refine ⟨fun w => ?_, WhereClause.ofJson_eq_error_iff.2 (.notAnObject hkind)⟩
    rw [whereValue_eq_ok_iff hgiven]
    simp only [mergeWhere_of_kind_ne_object hkind, Shorthand.readAll_eq_ok_iff, Except.ok.injEq,
      exists_and_right]
    rw [and_comm, eq_comm]
    rfl
  · rintro rfl hfilters w hw
    obtain ⟨requests, hread, -, -, rfl⟩ := (hobject [] rfl w).1 hw
    refine ⟨requests, hread, WhereClause.ofJson_eq_ok_iff.2 ⟨rfl, ?_⟩⟩
    rintro rfl
    exact hfilters (List.forall₂_nil_right_iff.1 hread)

/-- A field that is written out cannot be named by a shorthand as well.  Two shorthands on other
fields are added to it, be there signs of operators in an operand or not. -/
theorem whereValue_keeps_conditions_clash :
    let files : Files := ⟨["home"], []⟩
    let q (filters : List String) : QueryArguments :=
      ⟨⟨"data.json", none, {}⟩, some "\x7b\"age\": \x7b\"gt\": 18\x7d\x7d", none, filters, none, none,
        false⟩
    (∃ entries name team, givenWhere files (q []) = .ok (some (.object entries)) ∧
      Shorthand.read "name = 'a=b'" = .ok ("name", name) ∧
      Shorthand.read "team>2" = .ok ("team", team) ∧
      whereValue files (q ["name = 'a=b'", "team>2"]) =
        .ok (.object (entries ++ [("name", .object [(name.operator.name, name.operand)]),
          ("team", .object [(team.operator.name, team.operand)])]))) ∧
    ∀ w, whereValue files (q ["team>2", "age<30"]) ≠ .ok w := by
  intro files q
  obtain ⟨given, hgiven⟩ : ∃ given, givenWhere files (q []) = .ok given :=
    exists_eq_ok_of_isOk (by decide +kernel)
  have hkind : (givenWhere files (q [])).map (Option.map Json.kind) = .ok (some .object) := by
    decide +kernel
  rw [hgiven] at hkind
  obtain ⟨value, rfl, hvalue⟩ := Option.map_eq_some_iff.1 (Except.ok.inj hkind)
  cases value with
  | object entries =>
    -- That there is a clause, and the fields that the shorthands name, are evaluated; which clause
    -- it is then follows for all clauses.
    have hread (s field : String) (h : (Shorthand.read s).map (·.1) = .ok field) :
        ∃ request, Shorthand.read s = .ok (field, request) := by
      obtain ⟨found, hfound, rfl⟩ := map_eq_ok_iff.1 h
      exact ⟨found.2, hfound⟩
    obtain ⟨name, hname⟩ := hread "name = 'a=b'" "name" (by decide +kernel)
    obtain ⟨team, hteam⟩ := hread "team>2" "team" (by decide +kernel)
    obtain ⟨w, hw⟩ : ∃ w, whereValue files (q ["name = 'a=b'", "team>2"]) = .ok w :=
      exists_eq_ok_of_isOk (by decide +kernel)
    refine ⟨⟨entries, name, team, hgiven, hname, hteam, ?_⟩, ?_⟩
    · obtain ⟨hmerged, -, -⟩ :=
        whereValue_keeps_conditions (a := q ["name = 'a=b'", "team>2"]) hgiven
      obtain ⟨requests, hall, -, -, rfl⟩ := (hmerged entries rfl w).1 hw
      obtain ⟨first, _, hfirst, hrest, rfl⟩ := List.forall₂_cons_left_iff.1 hall
      obtain ⟨second, _, hsecond, hend, rfl⟩ := List.forall₂_cons_left_iff.1 hrest
      obtain rfl := List.forall₂_nil_left_iff.1 hend
      rw [hname] at hfirst
      rw [hteam] at hsecond
      cases hfirst
      cases hsecond
      exact hw
    · intro w hw
      have herror : (whereValue files (q ["team>2", "age<30"])).isOk = false := by decide +kernel
      rw [hw] at herror
      cases herror
  | null | bool | number | string | array => cases hvalue

end Run
end LooseRecords
