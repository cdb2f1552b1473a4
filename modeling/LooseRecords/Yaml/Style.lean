import LooseRecords.Number.Decimal
import LooseRecords.Yaml.Cursor

/-!
# Styles of YAML scalars

How a string is written in YAML. It is plain where its text is safe, that is neither read as
something other than a string nor mistaken for a mark; else it stands between single quotes, and
where those are not enough between double quotes with escapes. A string of several lines is written
as a literal block where all its characters can be written as they are.
-/

namespace LooseRecords
namespace Yaml

/-- A way to write a string. -/
inductive Style where
  | plain
  | singleQuoted
  | doubleQuoted
  | literal
  deriving DecidableEq, Repr

/-! ### Texts that are read as something else -/

/-- The words that are read as null or as a truth value. -/
def reservedWords : List (List Char) :=
  [['~'], ['n', 'u', 'l', 'l'], ['N', 'u', 'l', 'l'], ['N', 'U', 'L', 'L'],
    ['t', 'r', 'u', 'e'], ['T', 'r', 'u', 'e'], ['T', 'R', 'U', 'E'],
    ['f', 'a', 'l', 's', 'e'], ['F', 'a', 'l', 's', 'e'], ['F', 'A', 'L', 'S', 'E']]

/-- The spellings of infinity and of no number. -/
def specialNumbers : List (List Char) :=
  [['.', 'i', 'n', 'f'], ['.', 'I', 'n', 'f'], ['.', 'I', 'N', 'F'],
    ['+', '.', 'i', 'n', 'f'], ['+', '.', 'I', 'n', 'f'], ['+', '.', 'I', 'N', 'F'],
    ['-', '.', 'i', 'n', 'f'], ['-', '.', 'I', 'n', 'f'], ['-', '.', 'I', 'N', 'F'],
    ['.', 'n', 'a', 'n'], ['.', 'N', 'a', 'N'], ['.', 'N', 'A', 'N']]

/-- Whether a text is a whole number in digits of another base, of at most 128 bits. -/
def isRadixInteger (cs : List Char) : Bool :=
  let unsigned := match cs with
    | '+' :: rest | '-' :: rest => rest
    | cs => cs
  let limit := if cs.head? = some '-' then Nat.pow 2 127 + 1 else Nat.pow 2 128
  let fits (base : Nat) (digits : List Char) : Bool :=
    digits != [] && (Digits.valueIn? base digits).any (· < limit)
  match unsigned with
  | '0' :: 'x' :: digits => fits 16 digits
  | '0' :: 'o' :: digits => fits 8 digits
  | '0' :: 'b' :: digits => fits 2 digits
  | _ => false

/-- Whether a text is digits that begin with a superfluous zero. -/
def isZeroPadded (cs : List Char) : Bool :=
  match (Decimal.splitSign cs).2 with
  | '0' :: c :: rest => (c :: rest).all Digits.isDigit
  | _ => false

/-- Whether a text is a finite decimal number. -/
def isFiniteDecimal (cs : List Char) : Bool :=
  (Decimal.ofChars? cs).any fun d => d.toBinary64.finite?.isSome

/-- Whether a plain text would be read as null, a truth value or a number, or could be taken for
one. -/
def readsAsOther (cs : List Char) : Bool :=
  cs.isEmpty || cs ∈ reservedWords || cs ∈ specialNumbers || isRadixInteger cs || isZeroPadded cs ||
    isFiniteDecimal cs

/-! ### What a text allows -/

/-- Whether a character can be written as it is. -/
def isWritable (c : Char) : Bool :=
  let n := c.toNat
  n = 0x0A || (0x20 ≤ n && n ≤ 0x7E) || (0xA0 ≤ n && n ≤ 0xFFFD && n != 0xFEFF) || 0x10000 ≤ n

/-- Whether a character that has one property comes right before one that has another. -/
def hasPair (p q : Char → Bool) (cs : List Char) : Bool :=
  (cs.zip cs.tail).any fun (a, b) => p a && q b

/-- Whether a space comes right before the end of a line. -/
def hasSpaceBreak (cs : List Char) : Bool :=
  hasPair (· == ' ') isBreak cs

/-- Whether the end of a line comes right before a space. -/
def hasBreakSpace (cs : List Char) : Bool :=
  hasPair isBreak (· == ' ') cs

/-- Whether a text can be a literal block. -/
def allowsLiteral (cs : List Char) : Bool :=
  !cs.isEmpty && cs.all isWritable && cs.getLast? != some ' ' && !hasSpaceBreak cs

/-- Whether a text can stand between single quotes. -/
def allowsSingleQuotes (cs : List Char) : Bool :=
  cs.all isWritable && !hasSpaceBreak cs && !hasBreakSpace cs

/-- Whether a text begins with a mark. -/
def beginsWithMark : List Char → Bool
  | [] => false
  | c :: rest =>
      if c = '?' || c = ':' || c = '-' then atGap rest
      else
        c ∈ ['#', ',', '[', ']', '{', '}', '&', '*', '!', '|', '>', '\'', '"', '%', '@', '\x60']

/-- Whether a colon before a gap, or a hash sign after one, stands within a text after `before`. -/
def hasInnerMark (before : Char) : List Char → Bool
  | [] => false
  | c :: rest =>
      (c = ':' && atGap rest) || (c = '#' && (isBlank before || isBreak before)) ||
        hasInnerMark c rest

/-- Whether a text begins like the start or the end of a document. -/
def beginsLikeDocument (cs : List Char) : Bool :=
  let first := cs.take 3
  first = ['-', '-', '-'] || first = ['.', '.', '.']

/-- Whether a text can be plain. -/
def allowsPlain (cs : List Char) : Bool :=
  match cs with
  | [] => true
  | c :: rest =>
      cs.all (fun c => isWritable c && !isBreak c) && c != ' ' && cs.getLast? != some ' ' &&
        !beginsLikeDocument cs && !beginsWithMark cs && !hasInnerMark c rest

/-- The style in which a string is written. -/
def Style.of (cs : List Char) : Style :=
  if '\n' ∈ cs then if allowsLiteral cs then .literal else .doubleQuoted
  else if allowsPlain cs && !readsAsOther cs then .plain
  else if allowsSingleQuotes cs then .singleQuoted
  else .doubleQuoted

/-! ### Writing -/

/-- An indentation. -/
def spaces (count : Nat) : List Char :=
  List.replicate count ' '

/-- The characters of a literal block. `startsLine` says whether a line begins here; lines that are
not empty are indented. -/
def literalChars (indent : Nat) (startsLine : Bool) : List Char → List Char
  | [] => []
  | c :: rest =>
      if isBreak c then c :: literalChars indent true rest
      else (if startsLine then spaces indent else []) ++ c :: literalChars indent false rest

/-- The hint for the end of a literal block: whether all its line breaks count, only one, or none.
-/
def chompingHint (cs : List Char) : List Char :=
  match cs.reverse with
  | [] => ['-']
  | [c] => if isBreak c then ['+'] else ['-']
  | c :: d :: _ => if isBreak c then if isBreak d then ['+'] else [] else ['-']

/-- The hint for the indentation of a literal block, where its first line does not show it. -/
def indentHint (cs : List Char) : List Char :=
  match cs with
  | c :: _ => if c = ' ' || isBreak c then ['2'] else []
  | [] => []

/-- The characters between single quotes. `startsLine` says whether a line begins here. -/
def singleQuotedChars (indent : Nat) (startsLine : Bool) : List Char → List Char
  | [] => if startsLine then spaces indent else []
  | c :: rest =>
      if isBreak c then c :: singleQuotedChars indent true rest
      else
        (if startsLine then spaces indent else []) ++ (if c = '\'' then ['\'', c] else [c]) ++
          singleQuotedChars indent false rest

/-- The escapes of a letter. -/
def letterEscapes : List (Char × Char) :=
  [('\x00', '0'), ('\x07', 'a'), ('\x08', 'b'), ('\t', 't'), ('\n', 'n'), ('\x0b', 'v'),
    ('\x0c', 'f'), ('\r', 'r'), ('\x1b', 'e'), ('"', '"'), ('\\', '\\'), ('\u0085', 'N'), ('\u00a0', '_'),
    ('\u2028', 'L'), ('\u2029', 'P')]

/-- A number in hexadecimal digits with capital letters. -/
def capitalHex (width n : Nat) : List Char :=
  (Digits.padLeft width (Digits.hexadecimal n)).map Char.toUpper

/-- The escape of a character. -/
def escape (c : Char) : List Char :=
  match letterEscapes.lookup c with
  | some letter => ['\\', letter]
  | none =>
      if c.toNat ≤ 0xFF then '\\' :: 'x' :: capitalHex 2 c.toNat
      else if c.toNat ≤ 0xFFFF then '\\' :: 'u' :: capitalHex 4 c.toNat
      else '\\' :: 'U' :: capitalHex 8 c.toNat

/-- A character between double quotes. -/
def doubleQuotedChar (c : Char) : List Char :=
  if !isWritable c || isBreak c || c = '"' || c = '\\' then escape c else [c]

/-- A string, with the end of its line, at an indentation for further lines. -/
def writeString (indent : Nat) (cs : List Char) : List Char :=
  match Style.of cs with
  | .plain => cs ++ ['\n']
  | .singleQuoted => '\'' :: singleQuotedChars indent false cs ++ ['\'', '\n']
  | .doubleQuoted => '"' :: cs.flatMap doubleQuotedChar ++ ['"', '\n']
  | .literal =>
      '|' :: indentHint cs ++ chompingHint cs ++ '\n' :: literalChars indent true cs ++
        (if cs.getLast?.any isBreak then [] else ['\n'])

end Yaml
end LooseRecords
