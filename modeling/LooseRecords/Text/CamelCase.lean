import LooseRecords.Text.WordCharacter
import LooseRecords.Text.CaseMapping
import LooseRecords.Text.LetterCase

/-!
# Lower camel case

A heading such as `Full name` becomes the identifier `fullName`. The words of a text are found in
two steps: whatever is neither a letter nor a number separates, and within a run of letters and
numbers a change of case separates, as in `orderID` and `HTTPServer`. The first word is written
small, the others with a capital in front.
-/

namespace LooseRecords
namespace Text

/-- Puts `c` in front of the first word. -/
def consToFirst (c : Char) : List (List Char) → List (List Char)
  | [] => [[c]]
  | word :: rest => (c :: word) :: rest

/-- The longest runs of word characters, with an empty run between two separators and at an end. -/
def runs : List Char → List (List Char)
  | [] => [[]]
  | c :: rest => if isWordCharacter c then consToFirst c (runs rest) else [] :: runs rest

/-- The case of the last letter of a word that has one. -/
inductive WordCase where
  | small
  | capital
  deriving DecidableEq, Repr

/-- The case after one more character; a character without case changes nothing. -/
def WordCase.after (current : Option WordCase) (c : Char) : Option WordCase :=
  if isSmallLetter c then some .small
  else if isCapitalLetter c then some .capital
  else current

/-- The words of a run. `word` holds the characters of the current word, last one first, and
`current` its case. A word ends where a capital follows a small letter, and before the last of
several capitals that a small letter follows. -/
def wordsFrom (current : Option WordCase) (word : List Char) : List Char → List (List Char)
  | [] => []
  | [c] => [(c :: word).reverse]
  | c :: next :: rest =>
      let extended := WordCase.after current c
      if extended = some .small ∧ isCapitalLetter next = true then
        (c :: word).reverse :: wordsFrom none [] (next :: rest)
      else if current = some .capital ∧ isCapitalLetter c = true ∧ isSmallLetter next = true then
        word.reverse :: wordsFrom none [c] (next :: rest)
      else
        wordsFrom extended (c :: word) (next :: rest)

/-- The words of a text. -/
def words (cs : List Char) : List (List Char) :=
  (runs cs).flatMap (wordsFrom none [])

/-- A word in small letters; a capital sigma that ends it takes its final form. -/
def smallWord : List Char → List Char
  | [] => []
  | [c] => if c = 'Σ' then ['ς'] else smallForm c
  | c :: rest => smallForm c ++ smallWord rest

/-- A word with a capital in front and small letters after it. -/
def capitalizedWord : List Char → List Char
  | [] => []
  | c :: rest => capitalForm c ++ smallWord rest

/-- A text in lower camel case. It is empty where the text holds no letter and no number. -/
def lowerCamelCase (s : String) : String :=
  match words s.toList with
  | [] => ""
  | first :: others => String.ofList (smallWord first ++ others.flatMap capitalizedWord)

end Text
end LooseRecords
