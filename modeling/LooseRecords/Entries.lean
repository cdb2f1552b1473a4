/-!
# Entries under distinct keys

A list of entries in the order in which their keys first came up. Inserting under a key that is
already there replaces the value and keeps the place.
-/

namespace LooseRecords

/-- Entries with their keys, in order. -/
abbrev Entries (α : Type) := List (String × α)

namespace Entries

variable {α : Type}

/-- The keys in order. -/
def keys (entries : Entries α) : List String :=
  entries.map Prod.fst

/-- Puts `value` under `key`: in the place of the entry that has this key, else at the end. -/
def insert : Entries α → String → α → Entries α
  | [], key, value => [(key, value)]
  | (k, v) :: rest, key, value =>
      if k = key then (k, value) :: rest else (k, v) :: insert rest key value

/-- The value under `key`; of several the first. -/
def get? (entries : Entries α) (key : String) : Option α :=
  entries.lookup key

/-- Whether some entry has the key. -/
def contains (entries : Entries α) (key : String) : Bool :=
  entries.any (·.1 == key)

@[simp]
theorem keys_cons (entry : String × α) (rest : Entries α) :
    keys (entry :: rest) = entry.1 :: keys rest :=
  rfl

theorem keys_concat (entries : Entries α) (key : String) (value : α) :
    keys (entries ++ [(key, value)]) = keys entries ++ [key] :=
  List.map_append

/-- A value that is replaced leaves the keys as they are. -/
theorem keys_set_same {entries : Entries α} {i : Nat} (hi : i < entries.length) (value : α) :
    keys (entries.set i (entries[i].1, value)) = keys entries := by
  have hlength : i < (entries.map Prod.fst).length := by rwa [List.length_map]
  have hkey : entries[i].1 = (entries.map Prod.fst)[i] := (List.getElem_map _).symm
  rw [keys, List.map_set, hkey, List.set_getElem_self]
  rfl

/-- What stands where in a list that one more item was added to. -/
theorem getElem?_concat {β : Type} (items : List β) (item : β) (i : Nat) :
    (items ++ [item])[i]? = if i = items.length then some item else items[i]? := by
  rw [List.getElem?_append]
  split
  · next hi => rw [if_neg (Nat.ne_of_lt hi)]
  · next hi =>
    by_cases heq : i = items.length
    · simp [heq]
    · have hlt : items.length < i := by omega
      rw [if_neg heq, List.getElem?_eq_none (Nat.le_of_lt hlt), List.getElem?_eq_none]
      simp
      omega

/-- A key that is new comes at the end. -/
theorem keys_insert (entries : Entries α) (key : String) (value : α) :
    keys (insert entries key value) =
      if key ∈ keys entries then keys entries else keys entries ++ [key] := by
  induction entries with
  | nil => rfl
  | cons entry rest ih =>
    obtain ⟨k, v⟩ := entry
    rw [insert]
    by_cases hk : k = key
    · simp [hk]
    · rw [if_neg hk, keys_cons, keys_cons, ih]
      by_cases hmem : key ∈ keys rest
      · simp [hmem]
      · simp [hmem, Ne.symm hk]

theorem nodup_keys_insert {entries : Entries α} (key : String) (value : α)
    (h : (keys entries).Nodup) : (keys (insert entries key value)).Nodup := by
  rw [keys_insert]
  split
  · exact h
  · next hfresh =>
    rw [List.nodup_append]
    refine ⟨h, by simp, ?_⟩
    intro a ha b hb
    rw [List.mem_singleton.1 hb]
    rintro rfl
    exact hfresh ha

/-- An insertion changes what is found under its key, and nothing else. -/
theorem get?_insert (entries : Entries α) (key : String) (value : α) (other : String) :
    get? (insert entries key value) other =
      if other = key then some value else get? entries other := by
  unfold get?
  induction entries with
  | nil =>
    rw [insert, List.lookup_cons]
    by_cases hother : other = key
    · simp [hother]
    · simp [hother, beq_false_of_ne hother]
  | cons entry rest ih =>
    obtain ⟨k, v⟩ := entry
    rw [insert]
    by_cases hk : k = key
    · subst hk
      by_cases hother : other = k
      · simp [hother]
      · simp [hother, List.lookup_cons, beq_false_of_ne hother]
    · rw [if_neg hk, List.lookup_cons, List.lookup_cons, ih]
      by_cases hother : other = k
      · simp [hother, hk]
      · simp [beq_false_of_ne hother]

end Entries
end LooseRecords
