import LooseRecords.Json.Reader
import LooseRecords.WhereClause

/-!
# Shorthand conditions

Conditions can be written as `age>18` or `status = "shipped"`. The first operator sign ends the name
of the field; everything after it is the operand, which may hold any text. An operand in quotes is a
string, one that reads as null, a truth value or a number is that value, and any other is a string
as it stands.
-/

namespace LooseRecords
namespace Shorthand

open Text (trimChars)

/-- Why a shorthand, or a list of them, is rejected. -/
inductive Fault where
  | empty
  | noOperator (text : String)
  | unsupportedOperator (operator : String) (text : String)
  | unknownOperator (operator : String)
  | noField (text : String)
  | repeatedField (field : String)
  deriving DecidableEq, Repr

/-- The message of a fault. -/
def Fault.message : Fault → String
  | .empty => "Empty filter expression"
  | .noOperator text => "Failed to parse filter expression '" ++ text ++ "'"
  | .unsupportedOperator operator text =>
      "Operator '" ++ operator ++ "' is not supported in '" ++ text ++ "'; use =, > or <"
  | .unknownOperator operator => "Unknown comparison operator '" ++ operator ++ "'"
  | .noField text => "Filter expression '" ++ text ++ "' is missing a field name"
  | .repeatedField field =>
      "Field '" ++ field ++ "' has more than one filter; combine them into one condition"

/-- Whether a character is, or begins, an operator sign. -/
def isSign (c : Char) : Bool :=
  c = '=' || c = '>' || c = '<' || c = '!'

/-- The operator that a word or a sign stands for. -/
def operator (text : String) : Except Fault Operator :=
  match Operator.ofToken? text with
  | some operator => .ok operator
  | none => .error (.unknownOperator (Token.asciiWord text))

/-- The operator of a sign. -/
def operatorOfSign? (sign : Char) : Option Operator :=
  if sign = '=' then some .eq
  else if sign = '>' then some .gt
  else if sign = '<' then some .lt
  else none

/-- What stands between two quotes of the same kind, where the characters begin and end with them.
-/
def unquote? : List Char → Option (List Char)
  | [] => none
  | quote :: rest =>
      if (quote = '"' ∨ quote = '\'') ∧ rest.getLast? = some quote then some rest.dropLast else none

/-- The operand that trimmed characters denote. -/
def operandOf (cs : List Char) : Json :=
  match unquote? cs with
  | some inner => .string (String.ofList inner)
  | none =>
      match Json.ofSymbols (cs.map .char) with
      | .ok .null => .null
      | .ok (.bool b) => .bool b
      | .ok (.number n) => .number n
      | _ => .string (String.ofList cs)

/-- The parts of a shorthand around its sign. -/
structure Parts where
  field : List Char
  sign : Char
  operand : List Char

/-- The parts of trimmed characters. -/
def splitAtSign? (cs : List Char) : Option Parts :=
  match cs.dropWhile (!isSign ·) with
  | [] => none
  | sign :: operand => some ⟨cs.takeWhile (!isSign ·), sign, operand⟩

/-- Reads the shorthand that trimmed characters are. -/
def readTrimmed (cs : List Char) : Except Fault (String × Request) :=
  if cs = [] then .error .empty
  else
    match splitAtSign? cs with
    | none => .error (.noOperator (String.ofList cs))
    | some ⟨field, sign, operand⟩ =>
        if sign ≠ '=' ∧ operand.head? = some '=' then
          .error (.unsupportedOperator (String.ofList [sign, '=']) (String.ofList cs))
        else
          match operatorOfSign? sign with
          | none => .error (.unknownOperator (String.ofList [sign]))
          | some operator =>
              if trimChars field = [] then .error (.noField (String.ofList cs))
              else
                .ok (String.ofList (trimChars field), ⟨operator, operandOf (trimChars operand)⟩)

/-- Reads a shorthand: the name of a field and a condition on it. -/
def read (s : String) : Except Fault (String × Request) :=
  readTrimmed (trimChars s.toList)

/-- Adds the condition of a shorthand to those of the shorthands before it. -/
def add (requests : List (String × Request)) (s : String) :
    Except Fault (List (String × Request)) := do
  let request ← read s
  if requests.any (·.1 = request.1) then .error (.repeatedField request.1)
  else .ok (requests ++ [request])

/-- Reads shorthands, no two of which may be on the same field. -/
def readAll (texts : List String) : Except Fault (List (String × Request)) :=
  texts.foldlM add []

/-- The entries of the where clause that shorthands make. -/
def entries (requests : List (String × Request)) : List (String × Json) :=
  requests.map fun (field, request) => (field, request.toJson)

end Shorthand
end LooseRecords
