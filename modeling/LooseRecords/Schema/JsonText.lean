import LooseRecords.Json.Skip
import LooseRecords.Schema.Json

/-!
# Schemas in JSON texts

A schema file is read in one pass: what it holds is checked as soon as it is met, so that of two
faults the one that stands first in the text is reported. A key that comes twice is a fault, and the
values of keys that no field has are passed over.
-/

namespace LooseRecords
namespace Schema

open Text (Symbol)
open Json (Read skipSpace)

/-- A fault of the text as a fault of the schema. -/
def ofText {α : Type} (result : Except Json.Fault α) : Except DecodeFault α :=
  result.mapError .text

/-- The fault of a value that is not of the kind that is due. Words, numbers and strings are read
first, and may be at fault themselves. -/
def wrongValue (expected : Expected) (input : List Symbol) : DecodeFault :=
  let found : Except Json.Fault String :=
    match input with
    | .char '[' :: _ => .ok "sequence"
    | .char '{' :: _ => .ok "map"
    | _ => (Json.readValueWith none input).map fun (value, _) => value.found
  match found with
  | .ok found => .wrongKind found expected
  | .error fault => .text fault

/-- Reads a string. -/
def readString (expected : Expected) (input : List Symbol) : Except DecodeFault (Read String) :=
  match skipSpace input with
  | [] => .error (.text .endInValue)
  | .char '"' :: rest => ofText (Json.readString rest)
  | input => .error (wrongValue expected input)

/-- Reads the name of a type. -/
def readTypeName (input : List Symbol) : Except DecodeFault (Read FieldType) := do
  let (name, rest) ← readString .variantName input
  let type ← FieldType.ofName name
  .ok (type, rest)

/-- Reads the null that stands under the name of a type. -/
def readUnit (input : List Symbol) : Except DecodeFault (List Symbol) :=
  match skipSpace input with
  | [] => .error (.text .endInValue)
  | .char 'n' :: rest => ofText (Json.readWord ['u', 'l', 'l'] rest)
  | input => .error (wrongValue .unit input)

/-- Reads a type: its name, or an object with its name as only key and null under it. -/
def readType (input : List Symbol) : Except DecodeFault (Read FieldType) :=
  match skipSpace input with
  | [] => .error (.text .endInValue)
  | .char '"' :: rest => readTypeName (.char '"' :: rest)
  | .char '{' :: rest => do
      let (type, rest) ← readTypeName rest
      let rest ← ofText (Json.readColon rest)
      let rest ← readUnit rest
      match skipSpace rest with
      | [] => .error (.text .endInObject)
      | .char '}' :: rest => .ok (type, rest)
      | _ => .error (.text .noValue)
  | _ => .error (.text .noValue)

/-- Looks for the next item of an array, of which `isFirst` says whether it is the first: the text
from there on, or what follows the end of the array. -/
def nextItem (isFirst : Bool) (input : List Symbol) :
    Except DecodeFault (List Symbol ⊕ List Symbol) :=
  match skipSpace input with
  | [] => .error (.text .endInArray)
  | .char ']' :: rest => .ok (.inr rest)
  | s :: rest =>
      if isFirst then .ok (.inl (s :: rest))
      else if s = .char ',' then
        match skipSpace rest with
        | [] => .error (.text .endInValue)
        | .char ']' :: _ => .error (.text .trailingComma)
        | rest => .ok (.inl rest)
      else .error (.text .noArrayEnd)

/-- Reads the items of an array. Every round takes at least one symbol. -/
def readItems {α : Type} (readItem : List Symbol → Except DecodeFault (Read α)) :
    (fuel : Nat) → (items : List α) → List Symbol → Except DecodeFault (Read (List α))
  | 0, _, _ => .error (.text .endInArray)
  | fuel + 1, items, input => do
      match ← nextItem items.isEmpty input with
      | .inr rest => .ok (items.reverse, rest)
      | .inl input =>
          let (item, rest) ← readItem input
          readItems readItem fuel (item :: items) rest

/-- Reads an array. -/
def readArray {α : Type} (readItem : List Symbol → Except DecodeFault (Read α))
    (input : List Symbol) : Except DecodeFault (Read (List α)) :=
  match skipSpace input with
  | [] => .error (.text .endInValue)
  | .char '[' :: rest => readItems readItem (rest.length + 1) [] rest
  | input => .error (wrongValue .sequence input)

/-- Reads a part of a field. -/
def readPart (f : PartialField) (input : List Symbol) :
    Part → Except DecodeFault (Read PartialField)
  | .display => (readString .string input).map fun (s, rest) => ({ f with display := some s }, rest)
  | .name => (readString .string input).map fun (s, rest) => ({ f with name := some s }, rest)
  | .type => (readType input).map fun (t, rest) => ({ f with type := some t }, rest)
  | .options =>
      (readArray (readString .string) input).map fun (options, rest) =>
        ({ f with options := some options }, rest)

/-- Reads the parts of a field that is written as an array, of which `count` were read before. -/
def readParts (f : PartialField) (count : Nat) :
    List Part → List Symbol → Except DecodeFault (Read Field)
  | [], input =>
      match skipSpace input with
      | [] => .error (.text .endInArray)
      | .char ']' :: rest => f.complete.map fun field => (field, rest)
      | .char ',' :: rest =>
          match skipSpace rest with
          | .char ']' :: _ => .error (.text .trailingComma)
          | _ => .error (.text .trailingCharacters)
      | _ => .error (.text .trailingCharacters)
  | part :: parts, input => do
      match ← nextItem (count = 0) input with
      | .inr rest =>
          if part = .options then f.complete.map fun field => (field, rest)
          else .error (.tooFewParts count)
      | .inl input =>
          let (f, rest) ← readPart f input part
          readParts f (count + 1) parts rest

/-- Looks for the next key of an object: the text after its opening quotation mark, or what follows
the end of the object. -/
def nextKey (isFirst : Bool) (input : List Symbol) :
    Except DecodeFault (List Symbol ⊕ List Symbol) :=
  match skipSpace input with
  | [] => .error (.text .endInObject)
  | .char '}' :: rest => .ok (.inr rest)
  | s :: rest =>
      if isFirst then
        if s = .char '"' then .ok (.inl rest) else .error (.text .keyNotString)
      else if s = .char ',' then
        match skipSpace rest with
        | [] => .error (.text .endInValue)
        | .char '"' :: rest => .ok (.inl rest)
        | .char '}' :: _ => .error (.text .trailingComma)
        | _ => .error (.text .keyNotString)
      else .error (.text .noObjectEnd)

/-- Reads an entry of the object of a field, from after the opening quotation mark of its key. -/
def readEntry (f : PartialField) (input : List Symbol) :
    Except DecodeFault (Read PartialField) := do
  let (key, rest) ← ofText (Json.readString input)
  match Part.ofKey? key with
  | some part =>
      if f.has part then .error (.duplicatePart part)
      else do
        let rest ← ofText (Json.readColon rest)
        readPart f rest part
  | none => do
      let rest ← ofText (Json.readColon rest)
      let rest ← ofText (Json.skipValue rest)
      .ok (f, rest)

/-- Reads the entries of the object of a field. Every round takes at least one symbol. -/
def readEntries : (fuel : Nat) → (isFirst : Bool) → PartialField → List Symbol →
    Except DecodeFault (Read Field)
  | 0, _, _, _ => .error (.text .endInObject)
  | fuel + 1, isFirst, f, input => do
      match ← nextKey isFirst input with
      | .inr rest => f.complete.map fun field => (field, rest)
      | .inl input =>
          let (f, rest) ← readEntry f input
          readEntries fuel false f rest

/-- Reads a field: an object, or an array of its parts. -/
def readField (input : List Symbol) : Except DecodeFault (Read Field) :=
  match skipSpace input with
  | [] => .error (.text .endInValue)
  | .char '{' :: rest => readEntries (rest.length + 1) true {} rest
  | .char '[' :: rest => readParts {} 0 [.display, .name, .type, .options] rest
  | input => .error (wrongValue .field input)

/-- Reads a content that is one schema. It is not checked for being valid. -/
def ofJsonSymbols (input : List Symbol) : Except DecodeFault Schema := do
  let (fields, rest) ← readArray readField input
  ofText (Json.readEnd ⟨fields⟩ rest)

end Schema
end LooseRecords
