import LooseRecords.Text.Slice
import Mathlib.Data.List.Basic

/-!
# Where slices are

There is a slice between two offsets exactly where the text comes apart there: into what stands
before the slice, the slice, and what stands after it (`Text.slice?_eq_some_iff`).  A byte below
128 is a character of its own and no part of any other, so the first and the last byte tell whether
a text starts or ends with such a character.
-/

namespace LooseRecords
namespace Text

/-! ### Slices -/

/-- A text can be cut where a text before it ends. -/
theorem isValid_append (before after : String) :
    String.Pos.Raw.IsValid (before ++ after) ⟨before.utf8ByteSize⟩ :=
  String.Pos.Raw.isValid_iff_exists_append.2 ⟨before, after, rfl, rfl⟩

/-- What stands between two texts is a slice. -/
theorem slice?_append (before part after : String) :
    slice? (before ++ part ++ after) before.utf8ByteSize
      (before.utf8ByteSize + part.utf8ByteSize) = some part := by
  have hstart :
      String.Pos.Raw.IsValid (before ++ part ++ after) ⟨before.utf8ByteSize⟩ := by
    rw [String.append_assoc]
    exact isValid_append before (part ++ after)
  have hstop : String.Pos.Raw.IsValid (before ++ part ++ after)
      ⟨before.utf8ByteSize + part.utf8ByteSize⟩ := by
    rw [← String.utf8ByteSize_append]
    exact isValid_append (before ++ part) after
  rw [slice?, dif_pos ⟨Nat.le_add_right _ _, hstart, hstop⟩, Option.some_inj,
    ← String.toByteArray_inj, String.toByteArray_extract, String.toByteArray_append,
    String.toByteArray_append, ByteArray.append_assoc]
  calc (before.toByteArray ++ (part.toByteArray ++ after.toByteArray)).extract
        before.utf8ByteSize (before.utf8ByteSize + part.utf8ByteSize)
      = (part.toByteArray ++ after.toByteArray).extract 0 part.utf8ByteSize :=
        ByteArray.extract_append_size_add' (i := 0) rfl
    _ = part.toByteArray := ByteArray.extract_append_eq_left rfl

/-- The bytes of a text are those before, between and after two offsets. -/
theorem toByteArray_eq_append {s : String} {start stop : Nat} (hle : start ≤ stop)
    (hstop : stop ≤ s.utf8ByteSize) :
    s.toByteArray = s.toByteArray.extract 0 start ++ s.toByteArray.extract start stop ++
      s.toByteArray.extract stop s.utf8ByteSize :=
  calc s.toByteArray
      = s.toByteArray.extract 0 s.utf8ByteSize := ByteArray.extract_zero_size.symm
    _ = s.toByteArray.extract 0 stop ++ s.toByteArray.extract stop s.utf8ByteSize :=
        ByteArray.extract_eq_extract_append_extract stop (Nat.zero_le _) hstop
    _ = s.toByteArray.extract 0 start ++ s.toByteArray.extract start stop ++
          s.toByteArray.extract stop s.utf8ByteSize := by
        rw [ByteArray.extract_eq_extract_append_extract start (Nat.zero_le _) hle]

/-- There is a slice exactly where the text is made of a text up to the first offset, the slice up
to the second, and a rest. -/
theorem slice?_eq_some_iff {s part : String} {start stop : Nat} :
    slice? s start stop = some part ↔
      ∃ before after, s = before ++ part ++ after ∧ before.utf8ByteSize = start ∧
        before.utf8ByteSize + part.utf8ByteSize = stop := by
  constructor
  · intro h
    rw [slice?] at h
    split at h
    next hvalid =>
      obtain ⟨hle, hstart, hstop⟩ := hvalid
      have hbound : stop ≤ s.utf8ByteSize := hstop.le_utf8ByteSize
      have hpart : part.toByteArray = s.toByteArray.extract start stop := by
        rw [← Option.some.inj h, String.toByteArray_extract]
        rfl
      have hsize : part.utf8ByteSize = stop - start := by
        rw [← String.size_toByteArray, hpart, ByteArray.size_extract, String.size_toByteArray,
          Nat.min_eq_left hbound]
      obtain ⟨before, _, hbefore⟩ : ∃ before rest, (s.pos ⟨start⟩ hstart).Splits before rest :=
        ⟨_, _, String.Pos.splits _⟩
      obtain ⟨_, after, hafter⟩ : ∃ upto after, (s.pos ⟨stop⟩ hstop).Splits upto after :=
        ⟨_, _, String.Pos.splits _⟩
      have hstarts : before.utf8ByteSize = start :=
        congrArg String.Pos.Raw.byteIdx hbefore.offset_eq_rawEndPos.symm
      refine ⟨before, after, ?_, hstarts, by rw [hstarts, hsize, Nat.add_sub_cancel' hle]⟩
      rw [← String.toByteArray_inj, String.toByteArray_append, String.toByteArray_append,
        hbefore.toByteArray_left_eq, hpart, hafter.toByteArray_right_eq]
      exact toByteArray_eq_append hle hbound
    next => cases h
  · rintro ⟨before, after, rfl, rfl, rfl⟩
    exact slice?_append before part after

example : slice? "aλb" 1 2 = none := by decide +kernel

/-- The beginning of a text is a slice. -/
theorem slice?_append_left (before after : String) :
    slice? (before ++ after) 0 before.utf8ByteSize = some before :=
  slice?_eq_some_iff.2 ⟨"", after, by rw [String.empty_append], rfl, by simp⟩

/-- The end of a text is a slice. -/
theorem slice?_append_right (before after : String) :
    slice? (before ++ after) before.utf8ByteSize (before ++ after).utf8ByteSize = some after :=
  slice?_eq_some_iff.2 ⟨before, "", by rw [String.append_empty], rfl,
    (String.utf8ByteSize_append).symm⟩

/-! ### Bytes -/

/-- A character below 128 is encoded as one byte. -/
theorem utf8EncodeChar_of_lt {c : Char} (h : c.toNat < 128) :
    String.utf8EncodeChar c = [UInt8.ofNat c.toNat] :=
  if_pos (Nat.le_of_lt_succ h)

/-- The bytes of any other character are 128 or more. -/
theorem le_of_mem_utf8EncodeChar {c : Char} (h : ¬c.toNat < 128) :
    ∀ b ∈ String.utf8EncodeChar c, 128 ≤ b.toNat := by
  have hnot : ¬c.val.toNat ≤ 0x7F := fun hle => h (Nat.lt_succ_of_le hle)
  simp only [String.utf8EncodeChar, if_neg hnot]
  split_ifs <;>
    simp only [List.forall_mem_cons, UInt8.toNat_ofNat', List.not_mem_nil, false_imp_iff,
      implies_true, and_true] <;> omega

/-- The byte of a character below 128 is in the encoding of no other character. -/
theorem mem_utf8EncodeChar_iff {c d : Char} (hd : d.toNat < 128) :
    UInt8.ofNat d.toNat ∈ String.utf8EncodeChar c ↔ c = d := by
  constructor
  · intro h
    by_cases hc : c.toNat < 128
    · rw [utf8EncodeChar_of_lt hc, List.mem_singleton, ← UInt8.toNat_inj, UInt8.toNat_ofNat',
        UInt8.toNat_ofNat'] at h
      exact Char.toNat_inj.1 (by omega)
    · have hle := le_of_mem_utf8EncodeChar hc _ h
      rw [UInt8.toNat_ofNat'] at hle
      omega
  · rintro rfl
    rw [utf8EncodeChar_of_lt hd]
    exact List.mem_singleton_self _

/-- The bytes of characters are those of one after the other. -/
theorem byteAt?_ofList (cs : List Char) (offset : Nat) :
    byteAt? (String.ofList cs) offset = (cs.flatMap String.utf8EncodeChar)[offset]? := by
  rw [byteAt?, String.toByteArray_ofList, List.utf8Encode, List.data_toByteArray,
    List.getElem?_toArray]

theorem utf8ByteSize_ofList (cs : List Char) :
    (String.ofList cs).utf8ByteSize = (cs.flatMap String.utf8EncodeChar).length := by
  rw [← String.size_toByteArray, String.toByteArray_ofList, List.utf8Encode,
    List.size_toByteArray]

/-- There is a byte at every offset before the end. -/
theorem exists_byteAt? {s : String} {offset : Nat} (h : offset < s.utf8ByteSize) :
    ∃ b, byteAt? s offset = some b :=
  ⟨_, Array.getElem?_eq_getElem h⟩

variable {c d : Char} {cs : List Char}

/-- The first byte tells whether the first character is a given one below 128. -/
theorem byteAt?_zero_eq_some_iff (hd : d.toNat < 128) :
    byteAt? (String.ofList (c :: cs)) 0 = some (UInt8.ofNat d.toNat) ↔ c = d := by
  obtain ⟨b, bytes, hbytes⟩ := List.exists_cons_of_ne_nil (String.utf8EncodeChar_ne_nil (c := c))
  rw [byteAt?_ofList, List.flatMap_cons, hbytes, List.cons_append, List.getElem?_cons_zero,
    Option.some_inj]
  constructor
  · rintro rfl
    exact (mem_utf8EncodeChar_iff hd).1 (hbytes ▸ List.mem_cons_self)
  · rintro rfl
    rw [utf8EncodeChar_of_lt hd] at hbytes
    exact (List.cons.inj hbytes).1.symm

/-- The last byte tells whether the last character is a given one below 128. -/
theorem byteAt?_last_eq_some_iff (hd : d.toNat < 128) :
    byteAt? (String.ofList (cs ++ [c])) ((String.ofList (cs ++ [c])).utf8ByteSize - 1) =
      some (UInt8.ofNat d.toNat) ↔ c = d := by
  rw [byteAt?_ofList, utf8ByteSize_ofList, ← List.getLast?_eq_getElem?, List.flatMap_append,
    List.flatMap_singleton, List.getLast?_append_of_ne_nil _ String.utf8EncodeChar_ne_nil]
  constructor
  · exact fun h => (mem_utf8EncodeChar_iff hd).1 (List.mem_of_getLast? h)
  · rintro rfl
    rw [utf8EncodeChar_of_lt hd]
    rfl

end Text
end LooseRecords
