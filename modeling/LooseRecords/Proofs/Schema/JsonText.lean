import LooseRecords.Proofs.Json.Strings
import LooseRecords.Schema.JsonText

/-!
# Written schemas are read back

The text of a schema is read in one pass, without a value in between, so what is shown here follows
the text: strings, arrays, the parts of a field, fields, and the schema as an array of fields.  Each
is read back from its text whatever comes after it.  No field is left out or put in another place,
and no text within it is changed.
-/

namespace LooseRecords

open Text (Symbol)
open Json (Read lines moreItemLines moreEntryLines lineBreak quote)

namespace Schema

/-! ### Strings and types -/

theorem readString_quote (expected : Expected) (s : String) (rest : List Symbol) :
    readString expected ((quote s).map .char ++ rest) = .ok (s, rest) := by
  have hread : Json.readString ((s.toList.flatMap Json.escape).map .char ++ .char '"' :: rest) =
      .ok (s, rest) := Json.readString_quote s rest
  rw [Json.map_char_quote, List.cons_append, List.append_assoc, List.singleton_append, readString,
    Json.skipSpace_cons rfl]
  change ofText (Json.readString _) = _
  rw [hread]
  rfl

theorem ofName_name (t : FieldType) : FieldType.ofName t.name = .ok t := by
  cases t <;> rfl

theorem readType_quote (t : FieldType) (rest : List Symbol) :
    readType ((quote t.name).map .char ++ rest) = .ok (t, rest) := by
  have hname := readString_quote .variantName t.name rest
  rw [Json.map_char_quote, List.cons_append] at hname ⊢
  rw [readType, Json.skipSpace_cons rfl]
  change readTypeName _ = _
  rw [readTypeName, hname]
  simp only [bind, Except.bind, ofName_name]

/-! ### Arrays -/

/-- A reader gives an item back from its text, which does not begin like white space or like the end
of an array. -/
structure ReadsBack {α : Type} (readItem : List Symbol → Except DecodeFault (Read α))
    (text : List Char) (item : α) : Prop where
  begins : ∃ c cs, text = c :: cs ∧ Json.isSpace (.char c) = false ∧ c ≠ ']'
  read : ∀ rest, readItem (text.map .char ++ rest) = .ok (item, rest)

section Arrays

variable {α : Type} {readItem : List Symbol → Except DecodeFault (Read α)}

theorem nextItem_end (isFirst : Bool) (level : Nat) (rest : List Symbol) :
    nextItem isFirst ((lineBreak level).map .char ++ .char ']' :: rest) = .ok (.inr rest) := by
  rw [nextItem, Json.skipSpace_lineBreak, Json.skipSpace_cons rfl]
  rfl

/-- The first item of an array is found on a new line. -/
theorem nextItem_first {text : List Char} {item : α} (h : ReadsBack readItem text item)
    (level : Nat) (rest : List Symbol) :
    nextItem true ((lineBreak level).map .char ++ (text.map .char ++ rest)) =
      .ok (.inl (text.map .char ++ rest)) := by
  obtain ⟨c, cs, rfl, hspace, hend⟩ := h.begins
  rw [nextItem, Json.skipSpace_lineBreak, List.map_cons, List.cons_append,
    Json.skipSpace_cons hspace]
  split
  · next heq => cases heq
  · next heq => cases heq; exact absurd rfl hend
  · next heq => cases heq; rfl

/-- A further item of an array is found after a comma, on a new line. -/
theorem nextItem_more {text : List Char} {item : α} (h : ReadsBack readItem text item)
    (level : Nat) (rest : List Symbol) :
    nextItem false (.char ',' :: ((lineBreak level).map .char ++ (text.map .char ++ rest))) =
      .ok (.inl (text.map .char ++ rest)) := by
  obtain ⟨c, cs, rfl, hspace, hend⟩ := h.begins
  have hitem : Json.skipSpace ((lineBreak level).map .char ++
      ((c :: cs).map Symbol.char ++ rest)) = (c :: cs).map Symbol.char ++ rest := by
    rw [Json.skipSpace_lineBreak]
    exact Json.skipSpace_cons hspace _
  rw [nextItem, Json.skipSpace_cons rfl]
  split
  · next heq => cases heq
  · next heq => cases heq
  · next heq =>
    cases heq
    rw [if_neg Bool.false_ne_true, if_pos rfl, hitem]
    split
    · next heq => cases heq
    · next heq => cases heq; exact absurd rfl hend
    · rfl

theorem length_le_moreItemLines (level : Nat) (items : List Json) :
    items.length ≤ (moreItemLines level items).length := by
  induction items with
  | nil => exact Nat.zero_le _
  | cons item rest ih =>
    rw [moreItemLines]
    simp only [List.length_cons, List.length_append]
    omega

/-- Further items of an array are read back up to its end. -/
theorem readItems_more (toJson : α → Json) (level outer : Nat) (items : List α)
    (hitems : ∀ x ∈ items, ReadsBack readItem (lines level (toJson x)) x) :
    ∀ (fuel : Nat) (read : List α) (rest : List Symbol), items.length < fuel → read ≠ [] →
      readItems readItem fuel read ((moreItemLines level (items.map toJson)).map .char ++
        ((lineBreak outer).map .char ++ .char ']' :: rest)) =
          .ok (read.reverse ++ items, rest) := by
  induction items with
  | nil =>
    intro fuel read rest hfuel hread
    obtain ⟨fuel, rfl⟩ := Nat.exists_eq_add_one_of_ne_zero (Nat.ne_of_gt hfuel)
    rw [List.map_nil, moreItemLines, List.map_nil, List.nil_append, List.append_nil, readItems,
      nextItem_end]
    rfl
  | cons x items ih =>
    intro fuel read rest hfuel hread
    obtain ⟨fuel, rfl⟩ := Nat.exists_eq_add_one_of_ne_zero (Nat.ne_zero_of_lt hfuel)
    have hx : ReadsBack readItem (lines level (toJson x)) x := hitems x List.mem_cons_self
    have hrest := ih (fun y hy => hitems y (List.mem_cons_of_mem x hy)) fuel (x :: read) rest
      (Nat.lt_of_succ_lt_succ hfuel) (List.cons_ne_nil x read)
    have hempty : read.isEmpty = false := List.isEmpty_eq_false_iff.2 hread
    rw [List.map_cons, moreItemLines, readItems, hempty]
    simp only [List.map_append, List.map_cons, List.append_assoc, List.cons_append]
    rw [nextItem_more hx]
    simp only [bind, Except.bind]
    rw [hx.read]
    simp only [hrest, List.reverse_cons, List.append_assoc, List.singleton_append]

/-- An array of items that are read back is read back. -/
theorem readArray_lines (toJson : α → Json) (level : Nat) (items : List α)
    (hitems : ∀ x ∈ items, ReadsBack readItem (lines (level + 1) (toJson x)) x)
    (rest : List Symbol) :
    readArray readItem ((lines level (.array (items.map toJson))).map .char ++ rest) =
      .ok (items, rest) := by
  cases items with
  | nil => rfl
  | cons x items =>
    have hx : ReadsBack readItem (lines (level + 1) (toJson x)) x := hitems x List.mem_cons_self
    rw [List.map_cons, lines]
    simp only [List.map_append, List.map_cons, List.map_nil, List.append_assoc, List.cons_append,
      List.nil_append]
    rw [readArray, Json.skipSpace_cons rfl]
    change readItems readItem (_ + 1) [] _ = _
    rw [readItems, List.isEmpty_nil, nextItem_first hx]
    simp only [bind, Except.bind]
    rw [hx.read]
    dsimp only
    rw [readItems_more toJson (level + 1) level items
      (fun y hy => hitems y (List.mem_cons_of_mem x hy))]
    · rfl
    · -- Every further item has a comma of its own, so the length of the text is fuel enough.
      have hlength := length_le_moreItemLines (level + 1) (items.map toJson)
      rw [List.length_map] at hlength
      simp only [List.length_append, List.length_map, List.length_cons]
      omega
    · exact List.cons_ne_nil x []

end Arrays

end Schema

/-! ### Parts of fields -/

/-- The value of a part of a field. -/
def Field.partJson (f : Field) : Part → Json
  | .display => .string f.display
  | .name => .string f.name
  | .type => .string f.type.name
  | .options => .array (f.options.map .string)

/-- The entry of a part in the object of a field. -/
def Field.entry (f : Field) (part : Part) : String × Json :=
  (part.key, f.partJson part)

theorem Field.toJson_eq (f : Field) :
    f.toJson = .object (f.entry .display :: [Part.name, .type, .options].map f.entry) := rfl

theorem Part.ofKey?_key (part : Part) : ofKey? part.key = some part := by
  cases part <;> rfl

namespace PartialField

/-- Takes a part over from a field. -/
def take (p : PartialField) (f : Field) : Part → PartialField
  | .display => { p with display := some f.display }
  | .name => { p with name := some f.name }
  | .type => { p with type := some f.type }
  | .options => { p with options := some f.options }

/-- Taking a part over leaves the others as they are. -/
theorem has_take_of_ne (p : PartialField) (f : Field) {part other : Part} (h : other ≠ part) :
    (p.take f part).has other = p.has other := by
  cases part <;> cases other <;> first | rfl | exact absurd rfl h

end PartialField

namespace Schema

theorem readsBack_quote (expected : Expected) (s : String) :
    ReadsBack (readString expected) (quote s) s :=
  ⟨⟨'"', _, rfl, rfl, by decide⟩, readString_quote expected s⟩

/-- A part of a field is read back after the blank that follows its colon. -/
theorem readPart_partJson (p : PartialField) (f : Field) (level : Nat) (part : Part)
    (rest : List Symbol) :
    readPart p (.char ' ' :: ((lines level (f.partJson part)).map .char ++ rest)) part =
      .ok (p.take f part, rest) := by
  have hstring (s : String) :
      readString .string (.char ' ' :: ((quote s).map .char ++ rest)) = .ok (s, rest) :=
    readString_quote .string s rest
  cases part with
  | display =>
    change Except.map _ (readString .string (.char ' ' ::
      ((quote f.display).map .char ++ rest))) = _
    rw [hstring]
    rfl
  | name =>
    change Except.map _ (readString .string (.char ' ' ::
      ((quote f.name).map .char ++ rest))) = _
    rw [hstring]
    rfl
  | type =>
    have htype : readType (.char ' ' :: ((quote f.type.name).map .char ++ rest)) =
        .ok (f.type, rest) := readType_quote f.type rest
    change Except.map _ (readType (.char ' ' :: ((quote f.type.name).map .char ++ rest))) = _
    rw [htype]
    rfl
  | options =>
    have hoptions : readArray (readString .string) (.char ' ' ::
        ((lines level (.array (f.options.map .string))).map .char ++ rest)) =
          .ok (f.options, rest) :=
      readArray_lines Json.string level f.options
        (fun s _ => by rw [lines]; exact readsBack_quote .string s) rest
    change Except.map _ (readArray (readString .string) (.char ' ' ::
      ((lines level (.array (f.options.map .string))).map .char ++ rest))) = _
    rw [hoptions]
    rfl

/-! ### Fields -/

theorem nextKey_end (isFirst : Bool) (level : Nat) (rest : List Symbol) :
    nextKey isFirst ((lineBreak level).map .char ++ .char '}' :: rest) = .ok (.inr rest) := by
  rw [nextKey, Json.skipSpace_lineBreak, Json.skipSpace_cons rfl]
  rfl

/-- What stands before the first key of an object, or before a further one. -/
def keySeparator (isFirst : Bool) (level : Nat) : List Symbol :=
  if isFirst then (lineBreak level).map .char else .char ',' :: (lineBreak level).map .char

theorem nextKey_separator (isFirst : Bool) (level : Nat) (rest : List Symbol) :
    nextKey isFirst (keySeparator isFirst level ++ .char '"' :: rest) = .ok (.inl rest) := by
  have hkey : Json.skipSpace ((lineBreak level).map .char ++ .char '"' :: rest) =
      .char '"' :: rest := by
    rw [Json.skipSpace_lineBreak]
    exact Json.skipSpace_cons rfl rest
  cases isFirst with
  | true =>
    rw [keySeparator, if_pos rfl, nextKey, hkey]
    rfl
  | false =>
    rw [keySeparator, if_neg Bool.false_ne_true, List.cons_append, nextKey,
      Json.skipSpace_cons rfl]
    split
    · next heq => cases heq
    · next heq => cases heq
    · next heq =>
      cases heq
      rw [if_neg Bool.false_ne_true, if_pos rfl, hkey]
      rfl

/-- An entry of a field is read back, if its part was not read before. -/
theorem readEntries_entry {p : PartialField} {f : Field} {part : Part}
    (hnew : p.has part = false) (fuel : Nat) (isFirst : Bool) (level : Nat) (rest : List Symbol) :
    readEntries (fuel + 1) isFirst p (keySeparator isFirst level ++ ((quote part.key).map .char ++
      .char ':' :: .char ' ' :: ((lines level (f.partJson part)).map .char ++ rest))) =
        readEntries fuel false (p.take f part) rest := by
  have hentry : readEntry p ((part.key.toList.flatMap Json.escape).map .char ++ .char '"' ::
      .char ':' :: .char ' ' :: ((lines level (f.partJson part)).map .char ++ rest)) =
        .ok (p.take f part, rest) := by
    rw [readEntry, Json.readString_quote]
    simp only [ofText, Except.mapError, bind, Except.bind, Part.ofKey?_key, hnew]
    rw [if_neg Bool.false_ne_true, Json.readColon, Json.skipSpace_cons rfl]
    exact readPart_partJson p f level part rest
  rw [Json.map_char_quote, List.cons_append, readEntries, nextKey_separator, List.append_assoc,
    List.singleton_append]
  simp only [bind, Except.bind, hentry]

theorem length_le_moreEntryLines (level : Nat) (entries : List (String × Json)) :
    entries.length ≤ (moreEntryLines level entries).length := by
  induction entries with
  | nil => exact Nat.zero_le _
  | cons entry rest ih =>
    rw [moreEntryLines]
    simp only [List.length_cons, List.length_append]
    omega

/-- Further entries of a field are read back up to its end. -/
theorem readEntries_more (f : Field) (level outer : Nat) (parts : List Part) :
    ∀ (fuel : Nat) (p : PartialField) (rest : List Symbol), parts.length < fuel → parts.Nodup →
      (∀ part ∈ parts, p.has part = false) →
      readEntries fuel false p ((moreEntryLines level (parts.map f.entry)).map .char ++
        ((lineBreak outer).map .char ++ .char '}' :: rest)) =
          (parts.foldl (·.take f ·) p).complete.map fun field => (field, rest) := by
  induction parts with
  | nil =>
    intro fuel p rest hfuel _ _
    obtain ⟨fuel, rfl⟩ := Nat.exists_eq_add_one_of_ne_zero (Nat.ne_of_gt hfuel)
    rw [List.map_nil, moreEntryLines, List.map_nil, List.nil_append, readEntries, nextKey_end]
    rfl
  | cons part parts ih =>
    intro fuel p rest hfuel hnodup hnew
    obtain ⟨fuel, rfl⟩ := Nat.exists_eq_add_one_of_ne_zero (Nat.ne_zero_of_lt hfuel)
    obtain ⟨hpart, hparts⟩ := List.nodup_cons.1 hnodup
    have hothers : ∀ other ∈ parts, (p.take f part).has other = false := by
      intro other hother
      have hne : other ≠ part := fun h => hpart (h ▸ hother)
      rw [p.has_take_of_ne f hne]
      exact hnew other (List.mem_cons_of_mem part hother)
    have hrest := ih fuel (p.take f part) rest (Nat.lt_of_succ_lt_succ hfuel) hparts hothers
    have hentry := readEntries_entry (f := f) (hnew part List.mem_cons_self) fuel false level
      ((moreEntryLines level (parts.map f.entry)).map .char ++
        ((lineBreak outer).map .char ++ .char '}' :: rest))
    rw [hrest, keySeparator, if_neg Bool.false_ne_true] at hentry
    rw [List.map_cons, Field.entry, moreEntryLines, List.foldl_cons, ← hentry]
    simp only [List.map_append, List.map_cons, List.append_assoc, List.cons_append,
      List.nil_append]

/-- A written field is read back. -/
theorem readField_lines (f : Field) (level : Nat) (rest : List Symbol) :
    readField ((lines level f.toJson).map .char ++ rest) = .ok (f, rest) := by
  have hread (fuel : Nat) (hfuel : 3 < fuel) :
      readEntries (fuel + 1) true {} (keySeparator true (level + 1) ++
        ((quote Part.display.key).map .char ++ .char ':' :: .char ' ' ::
          ((lines (level + 1) (f.partJson .display)).map .char ++
            ((moreEntryLines (level + 1) ([Part.name, .type, .options].map f.entry)).map .char ++
              ((lineBreak level).map .char ++ .char '}' :: rest))))) = .ok (f, rest) := by
    have hnew : ∀ part ∈ [Part.name, .type, .options],
        (({} : PartialField).take f .display).has part = false := by
      intro part hpart
      have hne : part ≠ .display := by
        rintro rfl
        exact absurd hpart (by decide)
      rw [PartialField.has_take_of_ne _ f hne]
      cases part <;> rfl
    rw [readEntries_entry rfl, readEntries_more f (level + 1) level [.name, .type, .options] fuel _
      rest hfuel (by decide) hnew]
    rfl
  rw [Field.toJson_eq, Field.entry, lines]
  simp only [List.map_append, List.map_cons, List.append_assoc, List.cons_append, List.nil_append]
  rw [readField, Json.skipSpace_cons rfl]
  change readEntries (_ + 1) true {} _ = _
  refine hread _ ?_
  have hlength := length_le_moreEntryLines (level + 1) ([Part.name, .type, .options].map f.entry)
  simp only [List.length_append, List.length_map, List.length_cons, List.length_nil,
    List.map_cons] at hlength ⊢
  omega

theorem readsBack_field (f : Field) (level : Nat) :
    ReadsBack readField (lines level f.toJson) f := by
  refine ⟨?_, readField_lines f level⟩
  rw [Field.toJson_eq, Field.entry, lines]
  exact ⟨'{', _, rfl, rfl, by decide⟩

/-- A written schema is read back. -/
theorem ofJsonSymbols_prettyText (s : Schema) :
    ofJsonSymbols (Symbol.ofText s.toJson.prettyText) = .ok s := by
  have hfields : readArray readField ((lines 0 s.toJson).map .char ++ []) = .ok (s.fields, []) :=
    readArray_lines Field.toJson 0 s.fields (fun f _ => readsBack_field f 1) []
  rw [List.append_nil] at hfields
  rw [Symbol.ofText, Json.prettyText, String.toList_ofList, ofJsonSymbols, hfields]
  rfl

end Schema
end LooseRecords
