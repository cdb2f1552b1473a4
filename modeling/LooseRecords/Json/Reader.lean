import LooseRecords.Json.Value
import LooseRecords.Number.Scaled
import LooseRecords.Text.Symbol

/-!
# Reading JSON texts

A text is read from the front; each step gives what it read and the rest of the text. Reading stops
at the first fault, and of each fault the text of the message is fixed. Arrays and objects may be
nested 127 deep.

Stray bytes are met in contents that are not UTF-8. Within a string they are a fault, which shows
only where the string ends; elsewhere they are as unexpected as any other symbol.
-/

namespace LooseRecords
namespace Json

open Text (Symbol)

/-- What can be wrong with a JSON text. -/
inductive Fault where
  | endInValue
  | endInArray
  | endInObject
  | endInString
  | noValue
  | noWord
  | noColon
  | noArrayEnd
  | noObjectEnd
  | trailingComma
  | trailingCharacters
  | keyNotString
  | badNumber
  | numberTooLarge
  | badEscape
  | loneSurrogate
  | noSecondSurrogate
  | controlCharacter
  | badCodePoint
  | tooDeep
  deriving DecidableEq, Repr

/-- The message of a fault. -/
def Fault.message : Fault → String
  | .endInValue => "EOF while parsing a value"
  | .endInArray => "EOF while parsing a list"
  | .endInObject => "EOF while parsing an object"
  | .endInString => "EOF while parsing a string"
  | .noValue => "expected value"
  | .noWord => "expected ident"
  | .noColon => "expected \x60:\x60"
  | .noArrayEnd => "expected \x60,\x60 or \x60]\x60"
  | .noObjectEnd => "expected \x60,\x60 or \x60\x7d\x60"
  | .trailingComma => "trailing comma"
  | .trailingCharacters => "trailing characters"
  | .keyNotString => "key must be a string"
  | .badNumber => "invalid number"
  | .numberTooLarge => "number out of range"
  | .badEscape => "invalid escape"
  | .loneSurrogate => "lone leading surrogate in hex escape"
  | .noSecondSurrogate => "unexpected end of hex escape"
  | .controlCharacter => "control character (\\u0000-\\u001F) found while parsing a string"
  | .badCodePoint => "invalid unicode code point"
  | .tooDeep => "recursion limit exceeded"

/-- What a step of reading gives: a result and the rest of the text. -/
abbrev Read (α : Type) := α × List Symbol

/-- Whether a symbol may stand between the parts of a text. -/
def isSpace (s : Symbol) : Bool :=
  s = .char ' ' || s = .char '\n' || s = .char '\t' || s = .char '\r'

/-- The text after the white space in front of it. -/
def skipSpace (input : List Symbol) : List Symbol :=
  input.dropWhile isSpace

/-! ### Words and numbers -/

/-- Reads what remains of a word. -/
def readWord : List Char → List Symbol → Except Fault (List Symbol)
  | [], input => .ok input
  | _ :: _, [] => .error .endInValue
  | c :: cs, s :: rest => if s = .char c then readWord cs rest else .error .noWord

/-- The decimal digits in front of a text, and what follows them. -/
def splitDigits : List Symbol → List Char × List Symbol
  | .char c :: rest =>
      if Digits.isDigit c then
        let (digits, after) := splitDigits rest
        (c :: digits, after)
      else ([], .char c :: rest)
  | input => ([], input)

/-- At least one digit, with the digits after it. -/
def readDigits (input : List Symbol) : Except Fault (Read (List Char)) :=
  match splitDigits input with
  | ([], []) => .error .endInValue
  | ([], _ :: _) => .error .badNumber
  | (digits, rest) => .ok (digits, rest)

/-- The digits before the point: a single zero, or digits that do not begin with one. -/
def readWhole (input : List Symbol) : Except Fault (Read (List Char)) := do
  match ← readDigits input with
  | ('0' :: _ :: _, _) => .error .badNumber
  | result => .ok result

/-- The digits after the point, if there is a point. -/
def readFraction : List Symbol → Except Fault (Read (Option (List Char)))
  | .char '.' :: rest => do
      let (digits, rest) ← readDigits rest
      .ok (some digits, rest)
  | input => .ok (none, input)

/-- The sign of an exponent, and what follows it. -/
def splitExponentSign : List Symbol → Bool × List Symbol
  | .char '-' :: rest => (true, rest)
  | .char '+' :: rest => (false, rest)
  | input => (false, input)

/-- The exponent, if there is one. -/
def readExponent : List Symbol → Except Fault (Read (Option Int))
  | .char c :: rest =>
      if c = 'e' ∨ c = 'E' then do
        let (negative, rest) := splitExponentSign rest
        let (digits, rest) ← readDigits rest
        let magnitude : Int := Digits.value digits
        .ok (some (if negative then -magnitude else magnitude), rest)
      else .ok (none, .char c :: rest)
  | input => .ok (none, input)

/-- The whole number `± n`, where it is kept exactly. Negative zero is none, as it has to keep its
sign. -/
def Integer.ofParts? (negative : Bool) (n : Nat) : Option Integer :=
  if negative then
    if h : 0 < n ∧ n ≤ 9223372036854775808 then some ⟨-n, by omega, by omega⟩ else none
  else
    if h : n < 18446744073709551616 then some ⟨n, by omega, by omega⟩ else none

/-- The number with the given parts: exact where it has neither point nor exponent and is not too
large, else what floating-point steps make of it. -/
def Number.ofParts (negative : Bool) (whole : List Char) (fraction : Option (List Char))
    (exponent : Option Int) : Except Fault Number :=
  let exact :=
    if fraction.isNone && exponent.isNone then Integer.ofParts? negative (Digits.value whole)
    else none
  match exact with
  | some n => .ok (.integer n)
  | none =>
      let fitted := Decimal.fitParts negative whole (fraction.getD []) (exponent.getD 0)
      match fitted.toBinary64InSteps with
      | .finite x => .ok (.decimal x)
      | _ => .error .numberTooLarge

/-- Reads a number after its sign. -/
def readUnsigned (negative : Bool) (input : List Symbol) : Except Fault (Read Number) := do
  let (whole, input) ← readWhole input
  let (fraction, input) ← readFraction input
  let (exponent, input) ← readExponent input
  let n ← Number.ofParts negative whole fraction exponent
  .ok (n, input)

/-- Reads a number. -/
def readNumber : List Symbol → Except Fault (Read Number)
  | .char '-' :: rest => readUnsigned true rest
  | input => readUnsigned false input

/-! ### Strings -/

/-- The value of a hexadecimal digit. -/
def hexValue? : Symbol → Option Nat
  | .char c => Digits.digitValue? 16 c
  | .stray _ => none

/-- The value of the four hexadecimal digits of an escape. Fewer than four bytes are the end of the
text; among four or more bytes, four digits are due. -/
def readHex (input : List Symbol) : Except Fault Nat :=
  if Symbol.totalWidth (input.take 4) < 4 then .error .endInString
  else
    match input with
    | a :: b :: c :: d :: _ =>
        match hexValue? a, hexValue? b, hexValue? c, hexValue? d with
        | some a, some b, some c, some d => .ok (((a * 16 + b) * 16 + c) * 16 + d)
        | _, _, _, _ => .error .badEscape
    | _ => .error .badEscape

/-- The second half of a surrogate pair whose first half is `high`. -/
def readLowSurrogate (high : Nat) : List Symbol → Except Fault Char
  | [] => .error .endInString
  | [.char '\\'] => .error .endInString
  | .char '\\' :: .char 'u' :: rest => do
      let low ← readHex rest
      if 0xDC00 ≤ low ∧ low ≤ 0xDFFF then
        .ok (Char.ofNat (0x10000 + (high - 0xD800) * 0x400 + (low - 0xDC00)))
      else .error .loneSurrogate
  | _ => .error .noSecondSurrogate

/-- The character that the escape after a backslash stands for, and the number of its symbols. -/
def readEscape : List Symbol → Except Fault (Char × Nat)
  | [] => .error .endInString
  | .char 'u' :: rest => do
      let n ← readHex rest
      if 0xDC00 ≤ n ∧ n ≤ 0xDFFF then .error .loneSurrogate
      else if 0xD800 ≤ n ∧ n ≤ 0xDBFF then
        let c ← readLowSurrogate n (rest.drop 4)
        .ok (c, 11)
      else .ok (Char.ofNat n, 5)
  | .char '"' :: _ => .ok ('"', 1)
  | .char '\\' :: _ => .ok ('\\', 1)
  | .char '/' :: _ => .ok ('/', 1)
  | .char 'b' :: _ => .ok ('\x08', 1)
  | .char 'f' :: _ => .ok ('\x0c', 1)
  | .char 'n' :: _ => .ok ('\n', 1)
  | .char 'r' :: _ => .ok ('\r', 1)
  | .char 't' :: _ => .ok ('\t', 1)
  | _ => .error .badEscape

/-- Reads a string from after its opening quotation mark. `skip` symbols belong to an escape already
read, `read` holds the characters so far, last one first, and `sound` says that no stray byte was
met. -/
def readStringFrom (skip : Nat) (read : List Char) (sound : Bool) :
    List Symbol → Except Fault (Read String)
  | [] => .error .endInString
  | s :: rest =>
      match skip with
      | skip + 1 => readStringFrom skip read sound rest
      | 0 =>
          match s with
          | .stray _ => readStringFrom 0 read false rest
          | .char c =>
              if c = '"' then
                if sound then .ok (String.ofList read.reverse, rest) else .error .badCodePoint
              else if c = '\\' then
                match readEscape rest with
                | .ok (escaped, length) => readStringFrom length (escaped :: read) sound rest
                | .error fault => .error fault
              else if c.toNat < 0x20 then .error .controlCharacter
              else readStringFrom 0 (c :: read) sound rest

/-- Reads a string from after its opening quotation mark. -/
def readString (input : List Symbol) : Except Fault (Read String) :=
  readStringFrom 0 [] true input

/-! ### Arrays, objects and values -/

/-- Reads the items of an array up to its end; `items` holds those before, last one first. Every
round takes at least one symbol, so that `fuel` beyond the length of the text is never used up. -/
def readItems (readItem : List Symbol → Except Fault (Read Json)) :
    (fuel : Nat) → (items : List Json) → List Symbol → Except Fault (Read (List Json))
  | 0, _, _ => .error .endInArray
  | fuel + 1, items, input =>
      match skipSpace input with
      | [] => .error .endInArray
      | .char ']' :: rest => .ok (items.reverse, rest)
      | s :: rest =>
          if items.isEmpty then do
            let (item, rest) ← readItem (s :: rest)
            readItems readItem fuel [item] rest
          else if s = .char ',' then
            match skipSpace rest with
            | [] => .error .endInValue
            | .char ']' :: _ => .error .trailingComma
            | rest => do
                let (item, rest) ← readItem rest
                readItems readItem fuel (item :: items) rest
          else .error .noArrayEnd

/-- Reads the colon between a key and its value. -/
def readColon (input : List Symbol) : Except Fault (List Symbol) :=
  match skipSpace input with
  | [] => .error .endInObject
  | .char ':' :: rest => .ok rest
  | _ => .error .noColon

/-- Reads an entry of an object from after the opening quotation mark of its key. -/
def readEntry (readItem : List Symbol → Except Fault (Read Json)) (input : List Symbol) :
    Except Fault (Read (String × Json)) := do
  let (key, input) ← readString input
  let input ← readColon input
  let (value, input) ← readItem input
  .ok ((key, value), input)

/-- Reads the entries of an object up to its end. A key that comes again keeps its first place and
takes the later value. -/
def readEntries (readItem : List Symbol → Except Fault (Read Json)) :
    (fuel : Nat) → (entries : Entries Json) → List Symbol → Except Fault (Read (Entries Json))
  | 0, _, _ => .error .endInObject
  | fuel + 1, entries, input =>
      match skipSpace input with
      | [] => .error .endInObject
      | .char '}' :: rest => .ok (entries, rest)
      | s :: rest =>
          if entries.isEmpty then
            if s = .char '"' then do
              let ((key, value), rest) ← readEntry readItem rest
              readEntries readItem fuel (entries.insert key value) rest
            else .error .keyNotString
          else if s = .char ',' then
            match skipSpace rest with
            | [] => .error .endInValue
            | .char '"' :: rest => do
                let ((key, value), rest) ← readEntry readItem rest
                readEntries readItem fuel (entries.insert key value) rest
            | .char '}' :: _ => .error .trailingComma
            | _ => .error .keyNotString
          else .error .noObjectEnd

/-- Reads a value; `readItem` reads the values within it, where there may be any. -/
def readValueWith (readItem : Option (List Symbol → Except Fault (Read Json)))
    (input : List Symbol) : Except Fault (Read Json) :=
  match skipSpace input with
  | [] => .error .endInValue
  | .stray _ :: _ => .error .noValue
  | .char c :: rest =>
      if c = 'n' then do
        let rest ← readWord ['u', 'l', 'l'] rest
        .ok (.null, rest)
      else if c = 't' then do
        let rest ← readWord ['r', 'u', 'e'] rest
        .ok (.bool true, rest)
      else if c = 'f' then do
        let rest ← readWord ['a', 'l', 's', 'e'] rest
        .ok (.bool false, rest)
      else if c = '-' ∨ Digits.isDigit c = true then do
        let (n, rest) ← readNumber (.char c :: rest)
        .ok (.number n, rest)
      else if c = '"' then do
        let (s, rest) ← readString rest
        .ok (.string s, rest)
      else if c = '[' then
        match readItem with
        | none => .error .tooDeep
        | some readItem => do
            let (items, rest) ← readItems readItem (rest.length + 1) [] rest
            .ok (.array items, rest)
      else if c = '{' then
        match readItem with
        | none => .error .tooDeep
        | some readItem => do
            let (entries, rest) ← readEntries readItem (rest.length + 1) [] rest
            .ok (.object entries, rest)
      else .error .noValue

/-- Reads a value in which arrays and objects are nested at most `depth` deep. -/
def readValue : (depth : Nat) → List Symbol → Except Fault (Read Json)
  | 0 => readValueWith none
  | depth + 1 => readValueWith (some (readValue depth))

/-- How deep arrays and objects may be nested. -/
def depthLimit : Nat := 127

/-- Checks that nothing but white space is left. -/
def readEnd {α : Type} (result : α) (input : List Symbol) : Except Fault α :=
  match skipSpace input with
  | [] => .ok result
  | _ :: _ => .error .trailingCharacters

/-- Reads a content that is one JSON value. -/
def ofSymbols (input : List Symbol) : Except Fault Json := do
  let (value, rest) ← readValue depthLimit input
  readEnd value rest

/-- Reads a text that is one JSON value. -/
def parse (s : String) : Except Fault Json :=
  ofSymbols (Symbol.ofText s)

end Json
end LooseRecords
