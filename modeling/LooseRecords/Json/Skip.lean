import LooseRecords.Json.Reader

/-!
# Passing over JSON values

A value that nobody asks for is passed over. Its brackets, commas and colons have to be right, but
its numbers may be of any size, its strings may hold stray bytes and surrogates without a partner,
and it may be nested to any depth.
-/

namespace LooseRecords
namespace Json

open Text (Symbol)

/-- Passes over a digit and the digits after it. -/
def skipDigits (input : List Symbol) : Except Fault (List Symbol) :=
  match splitDigits input with
  | ([], _) => .error .badNumber
  | (_, rest) => .ok rest

/-- Passes over the digits before the point. -/
def skipWhole (input : List Symbol) : Except Fault (List Symbol) :=
  match splitDigits input with
  | ([], _) => .error .badNumber
  | ('0' :: _ :: _, _) => .error .badNumber
  | (_, rest) => .ok rest

/-- Passes over the exponent, if there is one. -/
def skipExponent : List Symbol → Except Fault (List Symbol)
  | .char c :: rest =>
      if c = 'e' ∨ c = 'E' then skipDigits (splitExponentSign rest).2 else .ok (.char c :: rest)
  | input => .ok input

/-- Passes over a number after its sign. -/
def skipUnsigned (input : List Symbol) : Except Fault (List Symbol) := do
  match ← skipWhole input with
  | .char '.' :: rest => skipDigits rest >>= skipExponent
  | rest => skipExponent rest

/-- The number of symbols of the escape after a backslash. -/
def skipEscape : List Symbol → Except Fault Nat
  | [] => .error .endInString
  | .char 'u' :: rest => (readHex rest).map fun _ => 5
  | .char c :: _ =>
      if c ∈ ['"', '\\', '/', 'b', 'f', 'n', 'r', 't'] then .ok 1 else .error .badEscape
  | _ => .error .badEscape

/-- Passes over a string from after its opening quotation mark. `skip` symbols belong to an escape
that was already passed over. -/
def skipStringFrom (skip : Nat) : List Symbol → Except Fault (List Symbol)
  | [] => .error .endInString
  | s :: rest =>
      match skip with
      | skip + 1 => skipStringFrom skip rest
      | 0 =>
          match s with
          | .stray _ => skipStringFrom 0 rest
          | .char c =>
              if c = '"' then .ok rest
              else if c = '\\' then
                match skipEscape rest with
                | .ok length => skipStringFrom length rest
                | .error fault => .error fault
              else if c.toNat < 0x20 then .error .controlCharacter
              else skipStringFrom 0 rest

/-- What encloses a value. -/
inductive Frame where
  | array
  | object
  deriving DecidableEq, Repr

namespace Frame

/-- The bracket that ends a frame. -/
def closing : Frame → Char
  | array => ']'
  | object => '}'

/-- The fault of a text that ends within a frame. -/
def atEnd : Frame → Fault
  | array => .endInArray
  | object => .endInObject

/-- The fault of a value that neither a comma nor the end of its frame follows. -/
def unclosed : Frame → Fault
  | array => .noArrayEnd
  | object => .noObjectEnd

/-- Passes over what stands before a value in a frame: nothing in an array, key and colon in an
object. -/
def skipKey : Frame → List Symbol → Except Fault (List Symbol)
  | array, input => .ok input
  | object, input =>
      match skipSpace input with
      | [] => .error .endInObject
      | .char '"' :: rest => skipStringFrom 0 rest >>= readColon
      | _ => .error .keyNotString

end Frame

/-- Where in a value the passing over stands. -/
inductive Place where
  /-- Before a value. -/
  | before
  /-- After the opening bracket of a frame. -/
  | opened
  /-- After a value. -/
  | after
  deriving DecidableEq, Repr

/-- Passes over a value within the given frames, innermost first. Every round takes a symbol or ends
a value, so that twice the length of the text is `fuel` enough. -/
def skipWithin : (fuel : Nat) → Place → List Frame → List Symbol → Except Fault (List Symbol)
  | 0, _, _, _ => .error .endInValue
  | fuel + 1, .before, frames, input =>
      match skipSpace input with
      | [] => .error .endInValue
      | .stray _ :: _ => .error .noValue
      | .char c :: rest =>
          if c = '[' then skipWithin fuel .opened (.array :: frames) rest
          else if c = '{' then skipWithin fuel .opened (.object :: frames) rest
          else do
            let rest ←
              if c = 'n' then readWord ['u', 'l', 'l'] rest
              else if c = 't' then readWord ['r', 'u', 'e'] rest
              else if c = 'f' then readWord ['a', 'l', 's', 'e'] rest
              else if c = '-' then skipUnsigned rest
              else if Digits.isDigit c then skipUnsigned (.char c :: rest)
              else if c = '"' then skipStringFrom 0 rest
              else .error .noValue
            skipWithin fuel .after frames rest
  | _ + 1, .after, [], input => .ok input
  | _ + 1, .opened, [], input => .ok input
  | fuel + 1, place, frame :: frames, input =>
      match skipSpace input with
      | [] => .error frame.atEnd
      | s :: rest =>
          if s = .char frame.closing then skipWithin fuel .after frames rest
          else if place = .after then
            if s = .char ',' then do
              let rest ← frame.skipKey rest
              skipWithin fuel .before (frame :: frames) rest
            else .error frame.unclosed
          else do
            let rest ← frame.skipKey (s :: rest)
            skipWithin fuel .before (frame :: frames) rest

/-- Passes over a value. -/
def skipValue (input : List Symbol) : Except Fault (List Symbol) :=
  skipWithin (2 * input.length + 2) .before [] input

end Json
end LooseRecords
