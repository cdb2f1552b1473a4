import LooseRecords.Text.CodeTable

/-!
# Blank characters

Blank is what Unicode calls White_Space: the ASCII blanks and controls, the no-break space, the
spaces of various widths and the separators of lines and paragraphs. Zero-width characters and the
byte order mark are not blank.
-/

namespace LooseRecords
namespace Text

/-- The code points with the property White_Space. -/
def blankCharacters : CodeRanges :=
  [(0x09, 0x0D), (0x20, 0x20), (0x85, 0x85), (0xA0, 0xA0), (0x1680, 0x1680), (0x2000, 0x200A),
    (0x2028, 0x2029), (0x202F, 0x202F), (0x205F, 0x205F), (0x3000, 0x3000)]

/-- Whether `c` is white space. -/
def isBlank (c : Char) : Bool :=
  blankCharacters.contains c.toNat

/-- What follows the leading blanks. -/
def skipBlanks (cs : List Char) : List Char :=
  cs.dropWhile isBlank

/-- What stands between the leading and the trailing blanks. -/
def trimChars (cs : List Char) : List Char :=
  (skipBlanks (skipBlanks cs).reverse).reverse

/-- The text without the blanks around it. -/
def trim (s : String) : String :=
  String.ofList (trimChars s.toList)

/-- Whether nothing but blanks stands in the text. -/
def isBlankText (s : String) : Bool :=
  s.toList.all isBlank

end Text
end LooseRecords
