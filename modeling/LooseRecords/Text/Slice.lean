/-!
# Slices

A text can be cut at byte offsets. The offsets of a slice must lie in the text, and none of them
inside a character; otherwise there is no slice.
-/

namespace LooseRecords
namespace Text

/-- The part of a text between two byte offsets. -/
def slice? (s : String) (start stop : Nat) : Option String :=
  if h : start ≤ stop ∧ String.Pos.Raw.IsValid s ⟨start⟩ ∧ String.Pos.Raw.IsValid s ⟨stop⟩ then
    some (s.extract (s.pos ⟨start⟩ h.2.1) (s.pos ⟨stop⟩ h.2.2))
  else none

/-- The byte at an offset. -/
def byteAt? (s : String) (offset : Nat) : Option UInt8 :=
  s.toByteArray.data[offset]?

end Text
end LooseRecords
