import HorizonIpc.Bytes
/-!
# Text — numbers, bytes and units of texts

A text is sent as its UTF-8 bytes.  Bytes below 128 stand for themselves, so a text of such bytes only is read back
byte by byte.

Some texts are read in 16-bit units.  A unit outside the surrogate range is a character; a high surrogate and the low
surrogate behind it are one character together; any other surrogate is refused.  `Utf16.decode` reads units from left to
right into a text of limited size and stops at the first character that it must refuse or that has no room.
-/
namespace HorizonIpc
namespace Text

/-- A number in lower-case hexadecimal behind `0x`, without leading zeros. -/
def hex (n : Nat) : String := "0x" ++ String.ofList (Nat.toDigits 16 n)

/-- A text moved right to fill at least `width` columns. -/
def padLeft (fill : Char) (width : Nat) (s : String) : String :=
  String.ofList (List.replicate (width - s.length) fill) ++ s

/-! ## bytes -/

def utf8 (s : String) : Bytes := s.toList.flatMap String.utf8EncodeChar

/-- Whether a byte stands for a character of its own. -/
def isAscii (b : UInt8) : Bool := b < 128

/-- The text whose characters have the given bytes as code points. -/
def ofAscii (bs : Bytes) : String := String.ofList (bs.map fun b => Char.ofNat b.toNat)

/-! ## units -/

/-- Why units are not decoded. -/
inductive Utf16Error where
  | unpairedSurrogate
  | noRoom
  deriving DecidableEq

namespace Utf16

/-- Whether a unit is the first of a pair. -/
def isHigh (u : UInt16) : Bool := 0xD800 ≤ u.toNat && u.toNat < 0xDC00

/-- Whether a unit is the second of a pair. -/
def isLow (u : UInt16) : Bool := 0xDC00 ≤ u.toNat && u.toNat < 0xE000

def joinPair (high low : UInt16) : Char :=
  Char.ofNat (0x10000 + (high.toNat - 0xD800) * 0x400 + (low.toNat - 0xDC00))

/-- Puts a character in front of the rest of the text, if there is room for it. -/
def push (room : Nat) (c : Char) (rest : Nat → Except Utf16Error (List Char)) : Except Utf16Error (List Char) :=
  if c.utf8Size ≤ room then (rest (room - c.utf8Size)).map (c :: ·) else .error .noRoom

/-- The characters of a list of units, as far as `room` UTF-8 bytes hold them. -/
def decode (room : Nat) : List UInt16 → Except Utf16Error (List Char)
  | [] => .ok []
  | u :: rest =>
    if isHigh u then
      match rest with
      | v :: rest => if isLow v then push room (joinPair u v) (fun room => decode room rest) else .error .unpairedSurrogate
      | [] => .error .unpairedSurrogate
    else if isLow u then .error .unpairedSurrogate
    else push room (Char.ofNat u.toNat) (fun room => decode room rest)

/-- The units in a byte string, each of two bytes. -/
def units : Bytes → List UInt16
  | a :: b :: rest => Bytes.toUInt16 [a, b] :: units rest
  | _ => []

end Utf16
end Text
end HorizonIpc
