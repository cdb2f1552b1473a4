import LooseRecords.Proofs.Text.Lowercase
import LooseRecords.Token

/-!
# Tokens are settled

A token is trimmed and lowered once for all: normalizing it again changes nothing, and only a blank
text has a blank token.
-/

namespace LooseRecords
namespace Token

/-- The characters of a token. -/
theorem toList_normalize (s : String) :
    (normalize s).toList = Text.lowerAfter [] (Text.trimChars s.toList) := by
  rw [normalize, Text.lowercase, Text.trim, String.toList_ofList, String.toList_ofList]

/-- Trimming a token changes nothing, as lowering makes no blanks. -/
theorem trimChars_normalize (s : String) :
    Text.trimChars (normalize s).toList = (normalize s).toList := by
  rw [toList_normalize]
  exact trimChars_eq_self
    (Text.isBlank_of_mem_head?_lowerAfter fun _ h => Text.isBlank_of_mem_head?_trimChars h)
    (Text.isBlank_of_mem_getLast?_lowerAfter fun _ h => Text.isBlank_of_mem_getLast?_trimChars h)

/-- Normalizing a token again changes nothing. -/
theorem normalize_normalize (s : String) : normalize (normalize s) = normalize s := by
  apply String.toList_injective
  rw [toList_normalize, trimChars_normalize, toList_normalize, Text.lowerAfter_lowerAfter]

/-- A text that normalizing does not change is trimmed. -/
theorem trimChars_eq_self_of_normalize {s : String} (h : normalize s = s) :
    Text.trimChars s.toList = s.toList := by
  rw [← h]
  exact trimChars_normalize s

/-- A token is blank exactly where its text is. -/
theorem isBlankText_normalize (s : String) :
    Text.isBlankText (normalize s) = Text.isBlankText s := by
  rw [Bool.eq_iff_iff, Text.isBlankText_iff_trimChars, Text.isBlankText_iff_trimChars,
    trimChars_normalize, toList_normalize, Text.lowerAfter_eq_nil_iff]

/-- Only a blank text has the empty token. -/
theorem normalize_eq_empty_iff {s : String} : normalize s = "" ↔ Text.isBlankText s = true := by
  have hlower : Text.lowerAfter [] (Text.trimChars s.toList) = [] ↔ Text.trimChars s.toList = [] :=
    Text.lowerAfter_eq_nil_iff
  rw [Text.isBlankText_iff_trimChars, ← hlower, ← toList_normalize, String.toList_eq_nil_iff]

end Token
end LooseRecords
