import LooseRecords.Schema.Inferred

/-!
# The columns of records

The pass over the records finds the column of a display name by its position.  As the positions are
right at any moment, each step is an insertion into the columns alone, as if they were searched for the
display name (`Columns.Pass.columns_push`); after that the positions need not be mentioned any more
(`Columns.ofRecords_eq`).  What comes out is one column for each display name, and in it exactly the
values that the records hold under this name, in the order of the records
(`eq_filterMap_get?_of_mem_ofRecords`).
-/

namespace LooseRecords

namespace Entries

variable {α : Type}

/-- Under distinct keys an entry is found under its key. -/
theorem lookup_of_mem {entries : Entries α} (hnodup : (keys entries).Nodup) {key : String}
    {value : α} (hmem : (key, value) ∈ entries) : entries.lookup key = some value := by
  induction entries with
  | nil => cases hmem
  | cons entry rest ih =>
    obtain ⟨hfresh, hrest⟩ := List.nodup_cons.1 hnodup
    rcases List.mem_cons.1 hmem with rfl | hmem
    · exact List.lookup_cons_self
    · have hne : key ≠ entry.1 := by
        rintro rfl
        exact hfresh (List.mem_map.2 ⟨_, hmem, rfl⟩)
      rw [List.lookup_cons, beq_false_of_ne hne]
      exact ih hrest hmem

theorem lookup_of_notMem {entries : Entries α} {key : String} (h : key ∉ keys entries) :
    entries.lookup key = none := by
  rw [List.lookup_eq_none_iff]
  rintro entry hentry
  exact bne_iff_ne.2 fun heq => h (List.mem_map.2 ⟨entry, hentry, heq.symm⟩)

/-- The values under a key: under distinct keys the one value that is there. -/
theorem filterMap_key_eq_toList {entries : Entries α} (hnodup : (keys entries).Nodup)
    (key : String) :
    (entries.filterMap fun entry => if entry.1 = key then some entry.2 else none) =
      (entries.get? key).toList := by
  induction entries with
  | nil => rfl
  | cons entry rest ih =>
    obtain ⟨hfresh, hrest⟩ := List.nodup_cons.1 hnodup
    rw [List.filterMap_cons, get?, List.lookup_cons]
    by_cases hkey : entry.1 = key
    · subst hkey
      have hnone : rest.filterMap (fun e => if e.1 = entry.1 then some e.2 else none) = [] := by
        rw [List.filterMap_eq_nil_iff]
        intro e he
        have hne : e.1 ≠ entry.1 := fun h => hfresh (h ▸ List.mem_map_of_mem he)
        exact if_neg hne
      simp [hnone]
    · rw [if_neg hkey, beq_false_of_ne (Ne.symm hkey)]
      exact ih hrest

/-- An entry under a new key comes at the end. -/
theorem insert_of_notMem {entries : Entries α} {key : String} (h : key ∉ keys entries) (value : α) :
    insert entries key value = entries ++ [(key, value)] := by
  induction entries with
  | nil => rfl
  | cons entry rest ih =>
    rw [keys_cons, List.mem_cons, not_or] at h
    rw [insert, if_neg (Ne.symm h.1), ih h.2, List.cons_append]

/-- Under distinct keys an entry is replaced at its position. -/
theorem insert_eq_set {entries : Entries α} (hnodup : (keys entries).Nodup) {key : String} {i : Nat}
    (hi : i < entries.length) (hkey : entries[i].1 = key) (value : α) :
    insert entries key value = entries.set i (key, value) := by
  induction entries generalizing i with
  | nil => exact absurd hi (Nat.not_lt_zero i)
  | cons entry rest ih =>
    obtain ⟨hfresh, hrest⟩ := List.nodup_cons.1 hnodup
    cases i with
    | zero =>
      have hfirst : entry.1 = key := hkey
      rw [insert, if_pos hfirst, hfirst]
      rfl
    | succ i =>
      have hlater : i < rest.length := Nat.lt_of_succ_lt_succ hi
      have hkey : rest[i].1 = key := hkey
      have hne : entry.1 ≠ key := by
        rintro heq
        exact hfresh (List.mem_map.2 ⟨rest[i], List.getElem_mem hlater, hkey.trans heq.symm⟩)
      rw [insert, if_neg hne, ih hrest hlater hkey]
      rfl

end Entries

namespace Columns

/-- The values of the column of a display name; none where there is no such column. -/
def column (columns : Columns) (display : String) : List Scalar :=
  (columns.lookup display).getD []

/-- Puts a value in front of the column of its display name. -/
def push (columns : Columns) (display : String) (value : Scalar) : Columns :=
  Entries.insert columns display (value :: columns.column display)

/-! ### The pass -/

namespace Pass

/-- The columns of a pass have distinct display names, as each has one position only. -/
theorem nodup_keys (pass : Pass) : pass.columns.keys.Nodup := by
  refine List.pairwise_iff_getElem.2 fun i j hi hj hlt heq => ?_
  have hfirst := (pass.placed _ i).2 (List.getElem?_eq_getElem hi)
  have hsecond := (pass.placed _ j).2 (List.getElem?_eq_getElem hj)
  rw [heq, hsecond] at hfirst
  exact Nat.ne_of_gt hlt (Option.some.inj hfirst)

/-- A display name without a position has no column. -/
theorem notMem_keys_of_get?_positions {pass : Pass} {display : String}
    (h : pass.positions.get? display = none) : display ∉ pass.columns.keys := by
  intro hmem
  obtain ⟨i, hi⟩ := List.mem_iff_getElem?.1 hmem
  rw [(pass.placed display i).2 hi] at h
  cases h

/-- What the pass does by positions comes to an insertion into the columns. -/
theorem columns_push (pass : Pass) (display : String) (value : Scalar) :
    (pass.push display value).columns = pass.columns.push display value := by
  unfold push
  split
  · next i hposition =>
    obtain ⟨hi, hkey⟩ := exists_of_get?_positions hposition
    have hmem : (display, pass.columns[i].2) ∈ pass.columns := hkey ▸ List.getElem_mem hi
    show pass.columns.set i (pass.columns[i].1, value :: pass.columns[i].2) = _
    rw [Columns.push, column, Entries.lookup_of_mem pass.nodup_keys hmem, Option.getD_some,
      Entries.insert_eq_set pass.nodup_keys hi hkey, hkey]
  · next hposition =>
    have hnone := notMem_keys_of_get?_positions hposition
    have hcolumn : pass.columns.column display = [] := by
      rw [column, Entries.lookup_of_notMem hnone]
      rfl
    rw [Columns.push, hcolumn, Entries.insert_of_notMem hnone]
    simp [add, openAtEnd]

/-- The same of several entries, one after the other. -/
theorem columns_foldl_push (entries : Entries Scalar) (pass : Pass) :
    (entries.foldl (fun pass (display, value) => pass.push display value) pass).columns =
      entries.foldl (fun columns (display, value) => columns.push display value) pass.columns := by
  induction entries generalizing pass with
  | nil => rfl
  | cons entry rest ih => rw [List.foldl_cons, ih, columns_push, List.foldl_cons]

end Pass

/-! ### Insertions -/

/-- Pushing a value opens a column at the end where there is none. -/
theorem keys_push (columns : Columns) (display : String) (value : Scalar) :
    (columns.push display value).keys =
      if display ∈ columns.keys then columns.keys else columns.keys ++ [display] :=
  Entries.keys_insert columns display _

theorem nodup_keys_push {columns : Columns} (h : columns.keys.Nodup) (display : String)
    (value : Scalar) : (columns.push display value).keys.Nodup :=
  Entries.nodup_keys_insert display _ h

/-- Pushing a value changes the column of its display name only. -/
theorem column_push (columns : Columns) (display : String) (value : Scalar) (key : String) :
    (columns.push display value).column key =
      if display = key then value :: columns.column key else columns.column key := by
  have hfound : (columns.push display value).lookup key =
      if key = display then some (value :: columns.column display) else columns.lookup key :=
    Entries.get?_insert columns display _ key
  rw [column, hfound]
  by_cases hkey : key = display
  · rw [if_pos hkey, if_pos hkey.symm, hkey]
    rfl
  · rw [if_neg hkey, if_neg (Ne.symm hkey)]
    rfl

/-- Pushing entries one after the other: the column of a display name grows by the values under this
name, last one first. -/
theorem column_foldl_push (entries : Entries Scalar) (columns : Columns) (key : String) :
    (entries.foldl (fun columns (display, value) => columns.push display value) columns).column
        key =
      (entries.filterMap fun entry => if entry.1 = key then some entry.2 else none).reverse ++
        columns.column key := by
  induction entries generalizing columns with
  | nil => rfl
  | cons entry rest ih =>
    rw [List.foldl_cons, ih, column_push, List.filterMap_cons]
    by_cases hkey : entry.1 = key
    · simp [hkey]
    · simp [hkey]

theorem nodup_keys_foldl_push (entries : Entries Scalar) {columns : Columns}
    (h : columns.keys.Nodup) :
    (entries.foldl (fun columns (display, value) => columns.push display value)
      columns).keys.Nodup := by
  induction entries generalizing columns with
  | nil => exact h
  | cons entry rest ih => exact ih (nodup_keys_push h entry.1 entry.2)

/-- The columns of records are those of all their entries in a row. -/
theorem ofRecords_eq (records : List RawRecord) :
    ofRecords records =
      ((records.flatMap (·.entries)).foldl
        (fun (columns : Columns) (display, value) => columns.push display value) []).map
        fun (display, values) => (display, List.reverse values) := by
  have hcolumns := Pass.columns_foldl_push (records.flatMap (·.entries)) .start
  rw [List.foldl_flatMap] at hcolumns
  exact congrArg (List.map fun (display, values) => (display, List.reverse values)) hcolumns

/-- The entries of all records under a display name are the values of the records that have it. -/
theorem filterMap_flatMap_entries (records : List RawRecord) (key : String) :
    (records.flatMap (·.entries)).filterMap
        (fun entry => if entry.1 = key then some entry.2 else none) =
      records.filterMap (·.get? key) := by
  rw [List.filterMap_flatMap]
  induction records with
  | nil => rfl
  | cons r rest ih =>
    rw [List.flatMap_cons, ih, List.filterMap_cons, Entries.filterMap_key_eq_toList r.nodup]
    cases h : r.get? key with
    | none =>
      rw [RawRecord.get?] at h
      simp [h]
    | some value =>
      rw [RawRecord.get?] at h
      simp [h]

/-- There is one column for each display name. -/
theorem nodup_keys_ofRecords (records : List RawRecord) : (ofRecords records).keys.Nodup := by
  have hempty : (Entries.keys ([] : Columns)).Nodup := List.nodup_nil
  have hkeys := nodup_keys_foldl_push (records.flatMap (·.entries)) hempty
  rw [ofRecords_eq, Entries.keys, List.map_map]
  exact hkeys

/-- A column holds exactly the values that the records have under its display name, in their
order. -/
theorem eq_filterMap_get?_of_mem_ofRecords {records : List RawRecord} {display : String}
    {values : List Scalar} (h : (display, values) ∈ ofRecords records) :
    values = records.filterMap (·.get? display) := by
  rw [ofRecords_eq] at h
  obtain ⟨⟨d, reversed⟩, hmem, heq⟩ := List.mem_map.1 h
  cases heq
  have hempty : (Entries.keys ([] : Columns)).Nodup := List.nodup_nil
  have hnodup := nodup_keys_foldl_push (records.flatMap (·.entries)) hempty
  have hcolumn := column_foldl_push (records.flatMap (·.entries)) [] display
  rw [column, Entries.lookup_of_mem hnodup hmem, filterMap_flatMap_entries] at hcolumn
  simp only [Option.getD_some, column, List.lookup_nil, Option.getD_none,
    List.append_nil] at hcolumn
  rw [hcolumn, List.reverse_reverse]

end Columns
end LooseRecords
