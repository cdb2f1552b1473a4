import LooseRecords.Text.Symbol
import LooseRecords.Yaml.Scalar

/-!
# Tokens of YAML texts

A text is cut into tokens from left to right. Blocks have no brackets in the text: their starts and
ends are tokens that come from indentation. Whether a scalar is a key shows only at the colon after
it, so that the token of a key is put in front of what was read since; a key without such a token in
front has to end on the line it begins on.
-/

namespace LooseRecords
namespace Yaml

open Text (Symbol)

/-- A token. -/
inductive Token where
  | versionDirective
  | tagDirective (handle tagStart : List Char)
  | documentStart
  | documentEnd
  | blockSequenceStart
  | blockMappingStart
  | blockEnd
  | flowSequenceStart
  | flowSequenceEnd
  | flowMappingStart
  | flowMappingEnd
  | blockEntry
  | flowEntry
  | key
  | value
  | alias (name : List Char)
  | anchor (name : List Char)
  | tag (handle ending : List Char)
  | scalar (text : List Char) (plain : Bool)
  deriving DecidableEq, Repr

/-- A place where a key may have begun. -/
structure KeyPlace where
  /-- Whether nothing but a key makes sense there. -/
  required : Bool
  /-- The number of tokens before it. -/
  position : Nat
  line : Nat
  column : Nat
  index : Nat
  deriving DecidableEq, Repr

/-- How far a text is cut into tokens. -/
structure Lexer where
  here : Cursor
  /-- The tokens so far, last one first. -/
  tokens : List Token := []
  /-- The indentation of the innermost block; none is -1. -/
  indent : Int := -1
  /-- The indentations of the blocks around it. -/
  indents : List Int := []
  /-- Whether a key may begin here. -/
  keyAllowed : Bool := true
  /-- Where the current key may have begun. -/
  keyPlace : Option KeyPlace := none
  /-- The same for the collections in brackets around it, innermost first. -/
  outerKeys : List (Option KeyPlace) := []
  deriving DecidableEq, Repr

namespace Lexer

/-- Whether the place is within brackets. -/
def inFlow (l : Lexer) : Bool :=
  !l.outerKeys.isEmpty

/-- Adds a token. -/
def emit (l : Lexer) (token : Token) : Lexer :=
  { l with tokens := token :: l.tokens }

/-- Puts a token after the first `position` tokens. -/
def emitAt (l : Lexer) (position : Nat) (token : Token) : Lexer :=
  let later := l.tokens.take (l.tokens.length - position)
  let earlier := l.tokens.drop (l.tokens.length - position)
  { l with tokens := later ++ token :: earlier }

/-- Moves to another place. -/
def move (l : Lexer) (here : Cursor) : Lexer :=
  { l with here := here }

/-- Says whether a key may begin next. -/
def allowKey (l : Lexer) (allowed : Bool) : Lexer :=
  { l with keyAllowed := allowed }

/-- Whether a key that may have begun at a place can no longer end there: keys are no longer than a
line and than 1024 characters. -/
def isStale (l : Lexer) (place : KeyPlace) : Bool :=
  place.line < l.here.line || place.index + 1024 < l.here.index

/-- Gives up a place of a key, which must not be a required one. -/
def withoutStale (l : Lexer) : Option KeyPlace → Option (Option KeyPlace)
  | none => some none
  | some place =>
      if l.isStale place then if place.required then none else some none else some (some place)

/-- Gives up the places where keys can no longer end. -/
def dropStaleKeys (l : Lexer) : Option Lexer := do
  let keyPlace ← l.withoutStale l.keyPlace
  let outerKeys ← l.outerKeys.mapM l.withoutStale
  some { l with keyPlace := keyPlace, outerKeys := outerKeys }

/-- Gives up the current place of a key. -/
def dropKey (l : Lexer) : Option Lexer :=
  if l.keyPlace.any (·.required) then none else some { l with keyPlace := none }

/-- Notes that a key may begin here. -/
def saveKey (l : Lexer) : Option Lexer :=
  if l.keyAllowed then do
    let l ← l.dropKey
    let required := !l.inFlow && decide (l.indent = l.here.column)
    some { l with
      keyPlace := some ⟨required, l.tokens.length, l.here.line, l.here.column, l.here.index⟩ }
  else some l

/-- Opens a block at a column that is farther right than the current one; its token is put after the
first `position` tokens. -/
def openBlock (l : Lexer) (column position : Nat) (token : Token) : Lexer :=
  if !l.inFlow && decide (l.indent < column) then
    { l.emitAt position token with indent := column, indents := l.indent :: l.indents }
  else l

/-- Closes the blocks that are indented by more than a column. -/
def closeBlocks (l : Lexer) (column : Int) : Lexer :=
  if l.inFlow then l
  else go l l.indents
where
  /-- Closes blocks one after the other; `outer` are the indentations around the current one. -/
  go (l : Lexer) : (outer : List Int) → Lexer
    | [] => l
    | indent :: outer =>
        if column < l.indent then
          go { l.emit .blockEnd with indent := indent, indents := outer } outer
        else l

/-! ### Texts of tags -/

/-- Whether a character may stand in a tag. -/
def isTagChar (c : Char) : Bool :=
  isNameChar c ||
    c ∈ [';', '/', '?', ':', '@', '&', '=', '+', '$', '.', '!', '~', '*', '\'', '(', ')']

/-- Whether a character may stand in a tag between angle brackets. -/
def isVerbatimTagChar (c : Char) : Bool :=
  isTagChar c || c ∈ [',', '[', ']']

/-- The bytes that escapes in front of a text stand for, and what follows them. -/
def splitEscapes : List Char → List UInt8 × List Char
  | '%' :: a :: b :: rest =>
      match Digits.valueIn? 16 [a, b] with
      | some n =>
          let (bytes, rest) := splitEscapes rest
          (n.toUInt8 :: bytes, rest)
      | none => ([], '%' :: a :: b :: rest)
  | cs => ([], cs)

/-- The text of a tag, its escapes resolved, and what follows it. -/
def readTagText (isChar : Char → Bool) :
    (fuel : Nat) → List Char → Option (List Char × List Char)
  | 0, _ => none
  | _, [] => some ([], [])
  | fuel + 1, c :: rest =>
      if c = '%' then do
        let (bytes, rest) := splitEscapes (c :: rest)
        if bytes.isEmpty then none
        else
          let escaped ← Symbol.chars? (Symbol.decode bytes)
          let (more, rest) ← readTagText isChar fuel rest
          some (escaped ++ more, rest)
      else if isChar c then do
        let (more, rest) ← readTagText isChar fuel rest
        some (c :: more, rest)
      else some ([], c :: rest)

/-! ### Blanks, comments and marks -/

/-- Passes over blanks, comments and line breaks up to the next token. A tab may stand where no key
can begin. -/
def skipToToken : (fuel : Nat) → Lexer → Lexer
  | 0, l => l
  | fuel + 1, l =>
      match l.here.rest with
      | [] => l
      | c :: _ =>
          if c = ' ' || (c = '\t' && (l.inFlow || !l.keyAllowed)) ||
              (c = '\ufeff' && l.here.column = 0) then
            skipToToken fuel (l.move l.here.next)
          else if c = '#' then skipToToken fuel (l.move l.here.takeLine.2)
          else
            match l.here.readBreak with
            | some (_, after) =>
                let l := l.move after
                skipToToken fuel (if l.inFlow then l else l.allowKey true)
            | none => l

/-- A mark of a document: all blocks end before it. -/
def documentMark (l : Lexer) (token : Token) : Option Lexer := do
  let l ← (l.closeBlocks (-1)).dropKey
  some (((l.allowKey false).move (l.here.skip 3)).emit token)

/-- Passes over digits, at most nine of them, that denote one of the given numbers. -/
def skipNumber (allowed : List Nat) (cs : List Char) : Option (List Char) :=
  let (digits, rest) := cs.span Digits.isDigit
  if !digits.isEmpty && digits.length ≤ 9 && Digits.value digits ∈ allowed then some rest else none

/-- Passes over a version that can be read. -/
def skipVersion (cs : List Char) : Option (List Char) := do
  match ← skipNumber [1] cs with
  | '.' :: rest => skipNumber [1, 2] rest
  | _ => none

/-- Whether a text is a handle: exclamation marks around a name, or one alone. -/
def isHandle (cs : List Char) : Bool :=
  match cs with
  | ['!'] => true
  | '!' :: rest => rest.getLast? = some '!' && rest.dropLast.all isNameChar
  | _ => false

/-- The directive that a line holds after its percent sign. -/
def directiveOf (line : List Char) : Option Token := do
  let (name, rest) := line.span isNameChar
  if name = ['Y', 'A', 'M', 'L'] && rest.head?.any isBlank then
    let rest ← skipVersion (rest.dropWhile isBlank)
    if endsLine rest then some .versionDirective else none
  else if name = ['T', 'A', 'G'] && rest.head?.any isBlank then
    let (handle, rest) := (rest.dropWhile isBlank).span (!isBlank ·)
    let (start, rest) ← readTagText isVerbatimTagChar (line.length + 1) (rest.dropWhile isBlank)
    if isHandle handle && !start.isEmpty && atGap rest && endsLine rest then
      some (.tagDirective handle start)
    else none
  else none
where
  /-- Whether only blanks and a comment are left of a line. -/
  endsLine (cs : List Char) : Bool :=
    (cs.dropWhile isBlank).head?.all (· = '#')

/-- A directive. -/
def directive (l : Lexer) : Option Lexer := do
  let l ← (l.closeBlocks (-1)).dropKey
  let (line, after) := l.here.next.takeLine
  let token ← directiveOf line
  some (((l.allowKey false).move after).emit token)

/-! ### Collections -/

/-- The start of a collection in brackets. -/
def openFlow (l : Lexer) (token : Token) : Option Lexer := do
  let l ← l.saveKey
  let l := { l with keyPlace := none, outerKeys := l.keyPlace :: l.outerKeys }
  some (((l.allowKey true).move l.here.next).emit token)

/-- The end of a collection in brackets. -/
def closeFlow (l : Lexer) (token : Token) : Option Lexer := do
  let l ← l.dropKey
  let l := match l.outerKeys with
    | [] => l
    | place :: outer => { l with keyPlace := place, outerKeys := outer }
  some (((l.allowKey false).move l.here.next).emit token)

/-- A comma within brackets. -/
def flowComma (l : Lexer) : Option Lexer := do
  let l ← l.dropKey
  some (((l.allowKey true).move l.here.next).emit .flowEntry)

/-- A hyphen in front of an item. -/
def itemMark (l : Lexer) : Option Lexer := do
  if !l.inFlow && !l.keyAllowed then none
  else
    let l ← (l.openBlock l.here.column l.tokens.length .blockSequenceStart).dropKey
    some (((l.allowKey true).move l.here.next).emit .blockEntry)

/-- A question mark in front of a key. -/
def keyMark (l : Lexer) : Option Lexer := do
  if !l.inFlow && !l.keyAllowed then none
  else
    let l ← (l.openBlock l.here.column l.tokens.length .blockMappingStart).dropKey
    some (((l.allowKey (!l.inFlow)).move l.here.next).emit .key)

/-- A colon between a key and its value. -/
def valueMark (l : Lexer) : Option Lexer :=
  match l.keyPlace with
  | some place =>
      let l := { l.emitAt place.position .key with keyPlace := none }
      let l := l.openBlock place.column place.position .blockMappingStart
      some (((l.allowKey false).move l.here.next).emit .value)
  | none =>
      if !l.inFlow && !l.keyAllowed then none
      else
        let l := l.openBlock l.here.column l.tokens.length .blockMappingStart
        some (((l.allowKey (!l.inFlow)).move l.here.next).emit .value)

/-! ### Anchors, tags and scalars -/

/-- The name after the mark of an anchor or an alias. -/
def readName (here : Cursor) : Option (List Char × Cursor) :=
  let (name, after) := here.next.takeWhile isNameChar
  let ends := atGap after.rest ||
    after.rest.head?.any (· ∈ ['?', ':', ',', ']', '}', '%', '@', '\x60'])
  if !name.isEmpty && ends then some (name, after) else none

/-- An anchor or an alias. -/
def named (l : Lexer) (token : List Char → Token) : Option Lexer := do
  let l ← l.saveKey
  let (name, after) ← readName l.here
  some (((l.allowKey false).move after).emit (token name))

/-- Whether a tag may end before a text. -/
def endsTag (inFlow : Bool) (cs : List Char) : Bool :=
  atGap cs || (inFlow && decide (cs.head? = some ','))

/-- The token of a tag, from after its exclamation mark, and what follows it. A tag with a handle,
or between angle brackets, has a text. -/
def readTag (cs : List Char) : Option (Token × List Char) :=
  let fuel := cs.length + 1
  match cs with
  | '<' :: rest => do
      let (text, rest) ← readTagText isVerbatimTagChar fuel rest
      match rest with
      | '>' :: rest => if text.isEmpty then none else some (.tag [] text, rest)
      | _ => none
  | cs => do
      let (name, rest) := cs.span isNameChar
      match rest with
      | '!' :: rest =>
          let (text, rest) ← readTagText isTagChar fuel rest
          if text.isEmpty then none else some (.tag ('!' :: name ++ ['!']) text, rest)
      | _ =>
          let (text, rest) ← readTagText isTagChar fuel cs
          some (if text.isEmpty then .tag [] ['!'] else .tag ['!'] text, rest)

/-- A tag. -/
def tagMark (l : Lexer) : Option Lexer := do
  let l ← l.saveKey
  let (token, rest) ← readTag (l.here.rest.drop 1)
  let after := l.here.skip (l.here.rest.length - rest.length)
  if endsTag l.inFlow rest then some (((l.allowKey false).move after).emit token) else none

/-- A block of lines. -/
def block (l : Lexer) (literal : Bool) : Option Lexer := do
  let l ← l.dropKey
  let (text, after) ← readBlock literal l.indent l.here.next
  some (((l.allowKey true).move after).emit (.scalar text false))

/-- A quoted scalar. -/
def quoted (l : Lexer) (quote : Char) : Option Lexer := do
  let l ← l.saveKey
  let (text, after) ← readQuoted quote (l.here.rest.length + 1) l.here.next [] .none
  some (((l.allowKey false).move after).emit (.scalar text false))

/-- A plain scalar. A key may begin on the line after it. -/
def plain (l : Lexer) : Option Lexer := do
  let l ← l.saveKey
  let (text, endsLine, after) ←
    readPlain l.inFlow (l.indent + 1) (l.here.rest.length + 1) l.here [] .none
  some (((l.allowKey endsLine).move after).emit (.scalar text true))

/-- Whether a plain scalar may begin with a text. -/
def startsPlain (inFlow : Bool) : List Char → Bool
  | [] => false
  | c :: rest =>
      if c = '-' then !rest.head?.any isBlank
      else if c = '?' || c = ':' then !inFlow && !atGap rest
      else
        !(isBlank c || isBreak c ||
          c ∈ [',', '[', ']', '{', '}', '#', '&', '*', '!', '|', '>', '\'', '"', '%', '@', '\x60'])

/-- Takes the next token, which begins with `c`. -/
def step (l : Lexer) (c : Char) (rest : List Char) : Option Lexer :=
  if c = '%' && l.here.column = 0 then l.directive
  else if l.here.atDocumentMark then
    l.documentMark (if c = '-' then .documentStart else .documentEnd)
  else if c = '[' then l.openFlow .flowSequenceStart
  else if c = '{' then l.openFlow .flowMappingStart
  else if c = ']' then l.closeFlow .flowSequenceEnd
  else if c = '}' then l.closeFlow .flowMappingEnd
  else if c = ',' then l.flowComma
  else if c = '-' && atGap rest then l.itemMark
  else if c = '?' && (l.inFlow || atGap rest) then l.keyMark
  else if c = ':' && (l.inFlow || atGap rest) then l.valueMark
  else if c = '*' then l.named .alias
  else if c = '&' then l.named .anchor
  else if c = '!' then l.tagMark
  else if c = '|' && !l.inFlow then l.block true
  else if c = '>' && !l.inFlow then l.block false
  else if c = '\'' || c = '"' then l.quoted c
  else if startsPlain l.inFlow (c :: rest) then l.plain
  else none

/-- Takes all tokens. Every round takes at least one character. -/
def run : (fuel : Nat) → Lexer → Option (List Token)
  | 0, _ => none
  | fuel + 1, l => do
      let l ← (skipToToken (l.here.rest.length + 1) l).dropStaleKeys
      match l.here.rest with
      | [] => do
          let l ← (l.closeBlocks (-1)).dropKey
          some l.tokens.reverse
      | c :: rest => do
          let l ← (l.closeBlocks l.here.column).step c rest
          run fuel l

end Lexer

/-- The tokens of a text. -/
def Token.ofChars? (cs : List Char) : Option (List Token) :=
  let cs := match cs with
    | '\ufeff' :: rest => rest
    | cs => cs
  if cs.all isAllowed then Lexer.run (cs.length + 1) { here := { rest := cs } } else none

end Yaml
end LooseRecords
