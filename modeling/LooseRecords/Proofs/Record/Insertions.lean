import LooseRecords.Proofs.Record
import LooseRecords.Proofs.Schema.Sightings

/-!
# Records by insertions

A record can be put together entry by entry, or be read from a JSON object that was put together in
this way.  Both come to the same (`RawRecord.insertions_eq_ofJson`): it does not matter whether
values are made scalars before or after they are inserted, because an insertion looks at keys only
(`Entries.map_insert`).  What a run of insertions leaves is told by its last entry for each key and
by the order in which the keys come up first.
-/

namespace LooseRecords
namespace Entries

variable {α β : Type}

/-! ### One insertion -/

/-- Under a key that is there the value is replaced in its place. -/
theorem insert_of_mem {entries : Entries α} (hnodup : (keys entries).Nodup) {key : String}
    (h : key ∈ keys entries) (value : α) :
    insert entries key value =
      entries.map fun entry => if entry.1 = key then (key, value) else entry := by
  induction entries with
  | nil => cases h
  | cons entry rest ih =>
    obtain ⟨k, v⟩ := entry
    obtain ⟨hfresh, hrest⟩ := List.nodup_cons.1 hnodup
    rw [insert, List.map_cons]
    by_cases hk : k = key
    · subst hk
      have hsame : rest.map (fun entry => if entry.1 = k then (k, value) else entry) = rest := by
        refine (List.map_congr_left fun entry hentry => if_neg ?_).trans (List.map_id rest)
        rintro rfl
        exact hfresh (List.mem_map.2 ⟨entry, hentry, rfl⟩)
      rw [if_pos rfl, if_pos rfl, hsame]
    · have hmem : key ∈ keys rest := (List.mem_cons.1 h).resolve_left (Ne.symm hk)
      rw [if_neg hk, if_neg hk, ih hrest hmem]

/-- An insertion looks at keys only. -/
theorem map_insert (f : α → β) (entries : Entries α) (key : String) (value : α) :
    (insert entries key value).map (Prod.map id f) =
      insert (entries.map (Prod.map id f)) key (f value) := by
  induction entries with
  | nil => rfl
  | cons entry rest ih =>
    obtain ⟨k, v⟩ := entry
    rw [insert, List.map_cons, Prod.map_apply, insert]
    by_cases hk : k = key
    · rw [if_pos hk, if_pos (show id k = key from hk)]
      rfl
    · rw [if_neg hk, if_neg (show ¬id k = key from hk), List.map_cons, ih]
      rfl

/-! ### Insertions one after the other -/

/-- The entries that are left when pairs are inserted one after the other. -/
def ofPairs (pairs : List (String × α)) : Entries α :=
  pairs.foldl (fun entries (key, value) => insert entries key value) []

theorem ofPairs_concat (pairs : List (String × α)) (pair : String × α) :
    ofPairs (pairs ++ [pair]) = insert (ofPairs pairs) pair.1 pair.2 :=
  List.foldl_append

/-- The keys are the first sightings among those of the pairs. -/
theorem keys_ofPairs (pairs : List (String × α)) :
    keys (ofPairs pairs) = (pairs.map Prod.fst).eraseDups := by
  induction pairs using List.reverseRecOn with
  | nil => rfl
  | append_singleton pairs pair ih =>
    rw [ofPairs_concat, keys_insert, ih, List.map_append, List.map_singleton, eraseDups_concat]
    simp only [List.mem_eraseDups]

theorem nodup_keys_ofPairs (pairs : List (String × α)) : (keys (ofPairs pairs)).Nodup := by
  rw [keys_ofPairs]
  exact nodup_eraseDups _

/-- What is found under a key is the last value that the pairs give for it. -/
theorem get?_ofPairs (pairs : List (String × α)) (key : String) :
    get? (ofPairs pairs) key = pairs.reverse.lookup key := by
  induction pairs using List.reverseRecOn with
  | nil => rfl
  | append_singleton pairs pair ih =>
    rw [ofPairs_concat, get?_insert, ih, List.reverse_concat, List.lookup_cons]
    by_cases hkey : key = pair.1
    · simp [hkey]
    · simp [hkey, beq_false_of_ne hkey]

example : ofPairs [("b", 1), ("a", 2), ("b", 3)] = [("b", 3), ("a", 2)] := by decide

/-- Values may be changed before or after they are inserted. -/
theorem map_ofPairs (f : α → β) (pairs : List (String × α)) :
    (ofPairs pairs).map (Prod.map id f) = ofPairs (pairs.map (Prod.map id f)) := by
  induction pairs using List.reverseRecOn with
  | nil => rfl
  | append_singleton pairs pair ih =>
    rw [ofPairs_concat, map_insert, ih, List.map_append, List.map_singleton, ofPairs_concat]
    rfl

/-- Entries under distinct keys are left as they are when they are inserted one after the other. -/
theorem ofPairs_of_nodup {entries : Entries α} (h : (keys entries).Nodup) :
    ofPairs entries = entries := by
  -- From the end, for the last entry is the last one inserted, and its key is new then.
  induction entries using List.reverseRecOn with
  | nil => rfl
  | append_singleton entries entry ih =>
    rw [keys, List.map_append, List.nodup_append] at h
    obtain ⟨hbefore, -, happart⟩ := h
    have hfresh : entry.1 ∉ keys entries := fun hmem =>
      happart entry.1 hmem entry.1 (List.mem_singleton.2 rfl) rfl
    rw [ofPairs_concat, ih hbefore, insert_of_notMem hfresh]

end Entries

namespace RawRecord

/-- Records with the same entries are the same. -/
theorem eq_of_entries_eq {r r' : RawRecord} (h : r.entries = r'.entries) : r = r' := by
  cases r
  cases r'
  cases h
  rfl

/-- The entries of a record that is read from pairs are the scalars of what inserting the pairs
leaves. -/
theorem entries_ofObject (pairs : List (String × Json)) :
    (ofObject pairs).entries = (Entries.ofPairs pairs).map (Prod.map id .ofJson) := by
  rw [Entries.map_ofPairs]
  induction pairs using List.reverseRecOn with
  | nil => rfl
  | append_singleton pairs pair ih =>
    rw [List.map_append, List.map_singleton, Entries.ofPairs_concat, ← ih, ofObject, ofObject,
      List.foldl_append]
    rfl

/-- A record that is put together by insertions is the record of the JSON object that the same
insertions put together.  Its keys are those of the pairs, each once, in the order in which they
come up first, and under a key stands the last value that the pairs give for it.  One insertion into
any record replaces the value under its key in its place, or puts a new entry at the end, and
changes nothing else. -/
theorem insertions_eq_ofJson (pairs : List (String × Json)) :
    let inserted :=
      pairs.foldl (fun (r : RawRecord) (key, value) => r.insert key (.ofJson value)) empty
    let object := Entries.ofPairs pairs
    ofJson (.object object) = inserted ∧
    inserted.entries = object.map (fun (key, value) => (key, .ofJson value)) ∧
    inserted.entries.keys.Nodup ∧
    (∀ key, key ∈ inserted.entries.keys ↔ key ∈ pairs.map Prod.fst) ∧
    inserted.entries.keys.Pairwise
      (fun a b => (pairs.map Prod.fst).idxOf a < (pairs.map Prod.fst).idxOf b) ∧
    (∀ key, inserted.get? key = (pairs.reverse.lookup key).map .ofJson) ∧
    ∀ (r : RawRecord) (key : String) (value : Scalar),
      ((r.insert key value).entries =
        if key ∈ r.entries.keys then
          r.entries.map fun entry => if entry.1 = key then (key, value) else entry
        else r.entries ++ [(key, value)]) ∧
      ∀ other,
        (r.insert key value).get? other = if other = key then some value else r.get? other := by
  intro inserted object
  have hentries : inserted.entries = object.map (Prod.map id .ofJson) := entries_ofObject pairs
  have hkeys : inserted.entries.keys = (pairs.map Prod.fst).eraseDups := by
    rw [hentries, Entries.keys, List.map_map]
    exact Entries.keys_ofPairs pairs
  refine ⟨?_, hentries, inserted.nodup, ?_, ?_, ?_, ?_⟩
  -- The object has distinct keys already, so reading it inserts nothing twice.
  · have hobject : Entries.ofPairs object = object :=
      Entries.ofPairs_of_nodup (Entries.nodup_keys_ofPairs pairs)
    refine eq_of_entries_eq ?_
    rw [hentries, ofJson, entries_ofObject, hobject]
  · intro key
    rw [hkeys, List.mem_eraseDups]
  · rw [hkeys]
    exact pairwise_idxOf_eraseDups _
  · intro key
    rw [get?, hentries, Entries.get?_map, Entries.get?_ofPairs]
  · intro r key value
    refine ⟨?_, Entries.get?_insert r.entries key value⟩
    by_cases hmem : key ∈ r.entries.keys
    · rw [if_pos hmem]
      exact Entries.insert_of_mem r.nodup hmem value
    · rw [if_neg hmem]
      exact Entries.insert_of_notMem hmem value

end RawRecord
end LooseRecords
