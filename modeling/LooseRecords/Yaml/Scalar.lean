import LooseRecords.Text.Digits
import LooseRecords.Yaml.Cursor

/-!
# Scalars of YAML texts

A scalar is plain, quoted in one of two ways, or a block of lines. Within plain and quoted scalars a
line break is folded: it counts as a space, and of several in a row the first is dropped. The lines
of a block are kept as they are in a literal block and folded in a folded one.

A scalar that is badly written gives no result.
-/

namespace LooseRecords
namespace Yaml

/-- What was passed over since the last character of a scalar: blanks, or line breaks, of which the
first is kept apart. Blanks beside a line break do not count. -/
inductive Gap where
  | blanks (cs : List Char)
  | breaks (first : List Char) (others : List Char)
  deriving DecidableEq, Repr

namespace Gap

/-- No gap. -/
def none : Gap := .blanks []

/-- The gap with one more blank. -/
def blank : Gap → Char → Gap
  | blanks cs, c => blanks (cs ++ [c])
  | gap, _ => gap

/-- The gap with one more line break. -/
def lineBreak : Gap → Char → Gap
  | blanks _, c => breaks [c] []
  | breaks first others, c => breaks first (others ++ [c])

/-- Whether there is a line break. -/
def hasBreak : Gap → Bool
  | blanks _ => false
  | breaks _ _ => true

/-- What a gap stands for within a scalar. -/
def folded : Gap → List Char
  | blanks cs => cs
  | breaks first others =>
      if first = ['\n'] then if others = [] then [' '] else others else first ++ others

end Gap

/-! ### Plain scalars -/

/-- Whether a plain scalar ends before a text: at a colon with a gap after it, and within brackets
at a bracket or comma. -/
def endsPlain (inFlow : Bool) : List Char → Bool
  | [] => true
  | c :: rest =>
      (c = ':' && atGap rest) || (inFlow && (c ∈ [',', '[', ']', '{', '}']))

/-- Whether a text has a colon in front of a character that may not follow one within brackets. -/
def hasMisplacedColon : List Char → Bool
  | ':' :: c :: _ => c ∈ [',', '?', '[', ']', '{', '}']
  | _ => false

/-- Reads a plain scalar whose further lines are indented by at least `indent`, from a place within
it. `text` holds its characters so far, last one first. Gives the text, whether a line break follows
it, and the place of what comes next. -/
def readPlain (inFlow : Bool) (indent : Int) :
    (fuel : Nat) → Cursor → (text : List Char) → Gap → Option (List Char × Bool × Cursor)
  | 0, _, _, _ => none
  | fuel + 1, here, text, gap =>
      let done := some (text.reverse, gap.hasBreak, here)
      match here.rest with
      | [] => done
      | c :: rest =>
          if isBlank c then
            if gap.hasBreak && c = '\t' && decide (here.column < indent) then none
            else readPlain inFlow indent fuel here.next text (gap.blank c)
          else
            match here.readBreak with
            | some (c, after) => readPlain inFlow indent fuel after text (gap.lineBreak c)
            | none =>
                let afterGap := decide (gap ≠ .none)
                if gap.hasBreak && !inFlow && decide (here.column < indent) then done
                else if here.atDocumentMark then done
                else if afterGap && c = '#' then done
                else if inFlow && hasMisplacedColon (c :: rest) then none
                else if endsPlain inFlow (c :: rest) then done
                else
                  readPlain inFlow indent fuel here.next (c :: (gap.folded.reverse ++ text)) .none

/-! ### Quoted scalars -/

/-- The characters that escapes of a single character stand for. -/
def simpleEscapes : List (Char × Char) :=
  [('0', '\x00'), ('a', '\x07'), ('b', '\x08'), ('t', '\t'), ('\t', '\t'), ('n', '\n'),
    ('v', '\x0b'), ('f', '\x0c'), ('r', '\r'), ('e', '\x1b'), (' ', ' '), ('"', '"'), ('/', '/'), ('\\', '\\'),
    ('N', '\u0085'), ('_', '\u00a0'), ('L', '\u2028'), ('P', '\u2029')]

/-- How many hexadecimal digits follow the letter of an escape. -/
def hexLength? (c : Char) : Option Nat :=
  if c = 'x' then some 2 else if c = 'u' then some 4 else if c = 'U' then some 8 else none

/-- The character that an escape stands for, and how many characters follow its backslash. -/
def readEscape : List Char → Option (Char × Nat)
  | [] => none
  | c :: rest =>
      match simpleEscapes.lookup c with
      | some escaped => some (escaped, 1)
      | none => do
          let length ← hexLength? c
          let digits := rest.take length
          if digits.length < length then none
          else
            let n ← Digits.valueIn? 16 digits
            if n.isValidChar then some (Char.ofNat n, length + 1) else none

/-- Reads a quoted scalar from a place within it up to its closing quote. -/
def readQuoted (quote : Char) :
    (fuel : Nat) → Cursor → (text : List Char) → Gap → Option (List Char × Cursor)
  | 0, _, _, _ => none
  | fuel + 1, here, text, gap =>
      match here.rest with
      | [] => none
      | c :: rest =>
          if isBlank c then readQuoted quote fuel here.next text (gap.blank c)
          else
            match here.readBreak with
            | some (c, after) => readQuoted quote fuel after text (gap.lineBreak c)
            | none =>
                let joined := gap.folded.reverse ++ text
                if here.atDocumentMark then none
                else if c = quote then
                  if quote = '\'' && decide (rest.head? = some '\'') then
                    readQuoted quote fuel (here.skip 2) ('\'' :: joined) .none
                  else some (joined.reverse, here.next)
                else if c = '\\' && quote = '"' then
                  match here.next.readBreak with
                  | some (_, after) => readQuoted quote fuel after joined (.breaks [] [])
                  | none =>
                      match readEscape rest with
                      | some (escaped, length) =>
                          readQuoted quote fuel (here.skip (length + 1)) (escaped :: joined) .none
                      | none => none
                else readQuoted quote fuel here.next (c :: joined) .none

/-! ### Blocks -/

/-- What becomes of the line breaks at the end of a block. -/
inductive Chomping where
  | strip
  | clip
  | keep
  deriving DecidableEq, Repr

/-- The chomping that a sign asks for. -/
def Chomping.ofSign? (c : Char) : Option Chomping :=
  if c = '-' then some .strip else if c = '+' then some .keep else none

/-- The indentation that a digit asks for; zero is none. -/
def indentOfDigit? (c : Char) : Option Nat :=
  if Digits.isDigit c && c != '0' then some (Digits.digitValue c) else none

/-- The two hints after the mark of a block, in any order, and the number of their characters. -/
def readHints : List Char → Chomping × Option Nat × Nat
  | [] => (.clip, none, 0)
  | c :: rest =>
      match Chomping.ofSign? c, indentOfDigit? c with
      | some chomping, _ =>
          match rest.head?.bind indentOfDigit? with
          | some indent => (chomping, some indent, 2)
          | none => (chomping, none, 1)
      | none, some indent =>
          match rest.head?.bind Chomping.ofSign? with
          | some chomping => (chomping, some indent, 2)
          | none => (.clip, some indent, 1)
      | none, none => (.clip, none, 0)

/-- The end of the line that a block begins on: blanks and a comment at most. -/
def readHeaderEnd (here : Cursor) : Option Cursor :=
  let (_, here) := here.takeWhile isBlank
  let here := if here.rest.head? = some '#' then here.takeLine.2 else here
  if atLineEnd here.rest then
    match here.readBreak with
    | some (_, after) => some after
    | none => some here
  else none

/-- Passes over empty lines and over the indentation of the line after them, which is at most
`indent` where that is known. Gives the line breaks, the largest indentation met, and the place. -/
def readEmptyLines (indent : Option Nat) :
    (fuel : Nat) → Cursor → (breaks : List Char) → (largest : Nat) →
      Option (List Char × Nat × Cursor)
  | 0, _, _, _ => none
  | fuel + 1, here, breaks, largest =>
      let spaces := (here.rest.takeWhile (· == ' ')).length
      let count := match indent with
        | some indent => min spaces (indent - here.column)
        | none => spaces
      let here := here.skip count
      let largest := max largest here.column
      let isShort := indent.all fun indent => here.column < indent
      if isShort && decide (here.rest.head? = some '\t') then none
      else
        match here.readBreak with
        | some (c, after) => readEmptyLines indent fuel after (breaks ++ [c]) largest
        | none => some (breaks, largest, here)

/-- Reads the lines of a block. `first` and `others` are the line breaks since the last line, which
began with a blank if `blankBefore` says so. -/
def readBlockLines (literal : Bool) (indent : Nat) :
    (fuel : Nat) → Cursor → (text first others : List Char) → (blankBefore : Bool) →
      Option (List Char × List Char × List Char × Cursor)
  | 0, _, _, _, _, _ => none
  | fuel + 1, here, text, first, others, blankBefore =>
      if here.column = indent && !here.rest.isEmpty then do
        let blankHere := here.rest.head?.any isBlank
        let join :=
          if !literal && !blankBefore && !blankHere then (Gap.breaks first others).folded
          else first ++ others
        let (line, here) := here.takeLine
        let (ending, here) := match here.readBreak with
          | some (c, after) => ([c], after)
          | none => ([], here)
        let (breaks, _, here) ← readEmptyLines (some indent) (here.rest.length + 1) here [] 0
        readBlockLines literal indent fuel here (text ++ join ++ line) ending breaks blankHere
      else some (text, first, others, here)

/-- Reads a block from after its mark; `parent` is the indentation around it. -/
def readBlock (literal : Bool) (parent : Int) (here : Cursor) : Option (List Char × Cursor) := do
  let (chomping, hint, length) := readHints here.rest
  let here ← readHeaderEnd (here.skip length)
  let known := hint.map fun hint => if 0 ≤ parent then parent.toNat + hint else hint
  let (breaks, largest, here) ← readEmptyLines known (here.rest.length + 1) here [] 0
  let indent := known.getD (max (max largest (parent + 1).toNat) 1)
  let (text, first, others, here) ←
    readBlockLines literal indent (here.rest.length + 1) here [] [] breaks false
  let tail := match chomping with
    | .strip => []
    | .clip => first
    | .keep => first ++ others
  some (text ++ tail, here)

end Yaml
end LooseRecords
