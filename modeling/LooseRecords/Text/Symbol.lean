/-!
# Symbols

The content of a file is a sequence of bytes that is meant to be UTF-8 and need not be. It is read
as a sequence of symbols: the characters that are well encoded, and between them the bytes that
belong to no character.
-/

namespace LooseRecords
namespace Text

/-- A character, or a byte that is no part of a well-encoded character. -/
inductive Symbol where
  | char (c : Char)
  | stray (byte : UInt8)
  deriving DecidableEq, Repr

namespace Symbol

/-- The symbols of a text. -/
def ofText (s : String) : List Symbol :=
  s.toList.map .char

/-- The number of bytes that a symbol takes. -/
def width : Symbol → Nat
  | .char c => c.utf8Size
  | .stray _ => 1

/-- The number of bytes that symbols take. -/
def totalWidth : List Symbol → Nat
  | [] => 0
  | s :: rest => s.width + totalWidth rest

/-- The characters of a content without stray bytes. -/
def chars? : List Symbol → Option (List Char)
  | [] => some []
  | .char c :: rest => (chars? rest).map (c :: ·)
  | .stray _ :: _ => none

/-- Whether `b` may follow the first byte of a character. -/
def isContinuation (b : UInt8) : Bool :=
  0x80 ≤ b && b ≤ 0xBF

/-- The six bits that a following byte carries. -/
def payload (b : UInt8) : Nat :=
  b.toNat % 64

/-- Whether `b` may follow `a` as the second byte of a character of three bytes: no encoding longer
than needed, no surrogate. -/
def isSecondOfThree (a b : UInt8) : Bool :=
  isContinuation b && (a != 0xE0 || 0xA0 ≤ b) && (a != 0xED || b ≤ 0x9F)

/-- Whether `b` may follow `a` as the second byte of a character of four bytes: no encoding longer
than needed, none beyond the last code point. -/
def isSecondOfFour (a b : UInt8) : Bool :=
  isContinuation b && (a != 0xF0 || 0x90 ≤ b) && (a != 0xF4 || b ≤ 0x8F)

/-- The character that the bytes begin with, and how many bytes follow its first one. -/
def firstChar? : List UInt8 → Option (Char × Nat)
  | [] => none
  | a :: rest =>
      if a < 0x80 then some (Char.ofNat a.toNat, 0)
      else if 0xC2 ≤ a && a ≤ 0xDF then
        match rest with
        | b :: _ =>
            if isContinuation b then some (Char.ofNat (a.toNat % 32 * 64 + payload b), 1) else none
        | [] => none
      else if 0xE0 ≤ a && a ≤ 0xEF then
        match rest with
        | b :: c :: _ =>
            if isSecondOfThree a b && isContinuation c then
              some (Char.ofNat ((a.toNat % 16 * 64 + payload b) * 64 + payload c), 2)
            else none
        | _ => none
      else if 0xF0 ≤ a && a ≤ 0xF4 then
        match rest with
        | b :: c :: d :: _ =>
            if isSecondOfFour a b && isContinuation c && isContinuation d then
              let high := (a.toNat % 8 * 64 + payload b) * 64 + payload c
              some (Char.ofNat (high * 64 + payload d), 3)
            else none
        | _ => none
      else none

/-- Reads bytes after passing over the first `skip` of them, which belong to a character already
read. -/
def decodeFrom (skip : Nat) : List UInt8 → List Symbol
  | [] => []
  | a :: rest =>
      match skip with
      | skip + 1 => decodeFrom skip rest
      | 0 =>
          match firstChar? (a :: rest) with
          | some (c, following) => .char c :: decodeFrom following rest
          | none => .stray a :: decodeFrom 0 rest

/-- The symbols of a sequence of bytes. -/
def decode (bytes : List UInt8) : List Symbol :=
  decodeFrom 0 bytes

end Symbol
end Text
end LooseRecords
