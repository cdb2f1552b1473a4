/-!
# Places in YAML texts

Indentation matters in YAML, so that a text is read with the column at hand. A line ends with a line
feed, a carriage return or both, with a next-line control, or with one of the two Unicode
separators.
-/

namespace LooseRecords
namespace Yaml

/-- A place in a text: what follows, and where it stands. -/
structure Cursor where
  rest : List Char
  line : Nat := 0
  column : Nat := 0
  index : Nat := 0
  deriving DecidableEq, Repr

/-- Whether a character ends a line. -/
def isBreak (c : Char) : Bool :=
  c = '\n' || c = '\r' || c = '\u0085' || c = '\u2028' || c = '\u2029'

/-- Whether a character is a space or a tab. -/
def isBlank (c : Char) : Bool :=
  c = ' ' || c = '\t'

/-- Whether a text is at its end or goes on with a blank or with the end of a line. -/
def atGap : List Char → Bool
  | [] => true
  | c :: _ => isBlank c || isBreak c

/-- Whether a text is at its end or at the end of a line. -/
def atLineEnd : List Char → Bool
  | [] => true
  | c :: _ => isBreak c

/-- Whether a character may stand in a name: a letter or digit of ASCII, an underscore or a hyphen.
-/
def isNameChar (c : Char) : Bool :=
  c.isAlphanum || c = '_' || c = '-'

/-- Whether a character may stand in a text at all. -/
def isAllowed (c : Char) : Bool :=
  let n := c.toNat
  n = 0x09 || n = 0x0A || n = 0x0D || (0x20 ≤ n && n ≤ 0x7E) || n = 0x85 ||
    (0xA0 ≤ n && n ≤ 0xD7FF) ||
    (0xE000 ≤ n && n ≤ 0xFFFD) || 0x10000 ≤ n

namespace Cursor

/-- The place after the next character, which does not end a line. -/
def next (here : Cursor) : Cursor :=
  { here with rest := here.rest.drop 1, column := here.column + 1, index := here.index + 1 }

/-- The place after a number of characters, none of which ends a line. -/
def skip (here : Cursor) (count : Nat) : Cursor :=
  { here with
    rest := here.rest.drop count, column := here.column + count, index := here.index + count }

/-- The character that the end of a line stands for, and the place where the next line begins. Only
the Unicode separators stand for themselves. -/
def readBreak (here : Cursor) : Option (Char × Cursor) :=
  let past (count : Nat) (c : Char) : Option (Char × Cursor) :=
    some (c, ⟨here.rest.drop count, here.line + 1, 0, here.index + count⟩)
  match here.rest with
  | '\r' :: '\n' :: _ => past 2 '\n'
  | '\r' :: _ | '\n' :: _ | '\u0085' :: _ => past 1 '\n'
  | '\u2028' :: _ => past 1 '\u2028'
  | '\u2029' :: _ => past 1 '\u2029'
  | _ => none

/-- The characters in front that have a property, and the place after them. -/
def takeWhile (here : Cursor) (p : Char → Bool) : List Char × Cursor :=
  let taken := here.rest.takeWhile p
  (taken, here.skip taken.length)

/-- What is left of the line, and the place at its end. -/
def takeLine (here : Cursor) : List Char × Cursor :=
  here.takeWhile (!isBreak ·)

/-- Whether a line begins here with the mark of the start or the end of a document. -/
def atDocumentMark (here : Cursor) : Bool :=
  here.column = 0 &&
    match here.rest with
    | '-' :: '-' :: '-' :: rest => atGap rest
    | '.' :: '.' :: '.' :: rest => atGap rest
    | _ => false

end Cursor
end Yaml
end LooseRecords
