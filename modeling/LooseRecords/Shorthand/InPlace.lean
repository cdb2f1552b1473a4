import LooseRecords.Shorthand
import LooseRecords.Text.Slice

/-!
# Reading shorthands in place

A shorthand need not be taken apart into characters. Its sign is found at a byte offset, and its
parts are slices of the text, taken at this offset and at those one or two bytes further on; quotes
are recognised by the first and the last byte. Such a reading can do what none on characters can: a
slice may end outside the text or inside a character, and then there is no result at all, not even a
fault.
-/

namespace LooseRecords
namespace Shorthand

open Text (slice? byteAt?)

/-- The code of a quotation mark. -/
def doubleQuote : UInt8 := 0x22

/-- The code of an apostrophe. -/
def singleQuote : UInt8 := 0x27

/-- The sign at the start of a text: two bytes if they are one that is not supported, else one. -/
def signInPlace? (rest : String) : Option String :=
  match slice? rest 0 2 with
  | some pair => if pair ∈ ["!=", ">=", "<="] then some pair else slice? rest 0 1
  | none => slice? rest 0 1

/-- What stands between two quotes of the same kind, if there are such quotes. -/
def unquoteInPlace? (s : String) : Option (Option String) :=
  if 2 ≤ s.utf8ByteSize then do
    let first ← byteAt? s 0
    let last ← byteAt? s (s.utf8ByteSize - 1)
    if first = doubleQuote ∧ last = doubleQuote ∨ first = singleQuote ∧ last = singleQuote then
      (slice? s 1 (s.utf8ByteSize - 1)).map some
    else some none
  else some none

/-- The operand that a trimmed text denotes. -/
def operandInPlace? (s : String) : Option Json := do
  match ← unquoteInPlace? s with
  | some inner => some (.string inner)
  | none =>
      match Json.parse s with
      | .ok .null => some .null
      | .ok (.bool b) => some (.bool b)
      | .ok (.number n) => some (.number n)
      | _ => some (.string s)

/-- Reads the shorthand in a trimmed text whose sign is at an offset. -/
def readAtInPlace? (s : String) (offset : Nat) : Option (Except Fault (String × Request)) := do
  let rest ← slice? s offset s.utf8ByteSize
  let sign ← signInPlace? rest
  if sign.utf8ByteSize = 2 then some (.error (.unsupportedOperator sign s))
  else
    match operator sign with
    | .error fault => some (.error fault)
    | .ok operator => do
        let field ← slice? s 0 offset
        let operand ← slice? rest sign.utf8ByteSize rest.utf8ByteSize
        if Text.trim field = "" then some (.error (.noField s))
        else do
          let operand ← operandInPlace? (Text.trim operand)
          some (.ok (Text.trim field, ⟨operator, operand⟩))

/-- Reads a shorthand. -/
def readInPlace? (s : String) : Option (Except Fault (String × Request)) :=
  let trimmed := Text.trim s
  if trimmed = "" then some (.error .empty)
  else
    match trimmed.find? isSign with
    | none => some (.error (.noOperator trimmed))
    | some position => readAtInPlace? trimmed position.offset.byteIdx

end Shorthand
end LooseRecords
