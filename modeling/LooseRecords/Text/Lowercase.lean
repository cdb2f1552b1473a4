import LooseRecords.Text.CaseMapping
import LooseRecords.Text.LetterCase

/-!
# Small letters

Lowering a text maps each character to its small form. The one letter whose form depends on its
neighbours is the capital sigma: at the end of a word it becomes `ς`, elsewhere `σ`.
-/

namespace LooseRecords
namespace Text

/-- Whether the nearest character that is not ignorable has a case. -/
def meetsCased (cs : List Char) : Bool :=
  match cs.dropWhile isCaseIgnorable with
  | c :: _ => isCased c
  | [] => false

/-- The small form of a sigma, given the characters before it (nearest first) and after it: final
where a letter stands before and none after. -/
def smallSigma (before after : List Char) : Char :=
  if meetsCased before && !meetsCased after then 'ς' else 'σ'

/-- The small forms of a list of characters that comes after `before`, nearest first. -/
def lowerAfter (before : List Char) : List Char → List Char
  | [] => []
  | c :: rest =>
      (if c = 'Σ' then [smallSigma before rest] else smallForm c) ++ lowerAfter (c :: before) rest

/-- The text in small letters. -/
def lowercase (s : String) : String :=
  String.ofList (lowerAfter [] s.toList)

/-- The text with the letters `A` to `Z` made small, all other characters kept. -/
def asciiLowercase (s : String) : String :=
  String.ofList (s.toList.map Char.toLower)

end Text
end LooseRecords
