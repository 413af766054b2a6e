import HorizonIpc.Parcel.Area
import HorizonIpc.Text
/-!
# Parcel.Basic — typed values in a parcel

A parcel has a data area for plain values and an objects area for references.  Each write appends one value as a whole
or fails and changes nothing; each read takes the next value as a whole or fails and moves nothing.  A text is written
with one 16-bit unit for each of its UTF-8 bytes, which is right for the ASCII names that the protocol uses, and is read
back as UTF-16.
-/
namespace HorizonIpc

/-- A parcel. -/
structure Parcel where
  data : Parcel.Area
  objects : Parcel.Area
  deriving DecidableEq

namespace Parcel

def empty : Parcel := ⟨.empty, .empty⟩

instance : Inhabited Parcel := ⟨empty⟩

def rewind (p : Parcel) : Parcel := ⟨p.data.rewind, p.objects.rewind⟩

def clear (p : Parcel) : Parcel := ⟨p.data.clear, p.objects.clear⟩

def label (p : Parcel) : String :=
  "Parcel \x7b data_size: " ++ toString p.data.extent ++ ", data_pos: " ++ toString p.data.cursor ++
    ", objects_size: " ++ toString p.objects.extent ++ ", objects_pos: " ++ toString p.objects.cursor ++ " \x7d"

/-- An attempt on the data area as an attempt on the parcel. -/
def onData {α : Type} (x : Attempt Area Error α) : Attempt Parcel Error α :=
  x.inside Parcel.data fun p a => { p with data := a }

/-- An attempt on the objects area as an attempt on the parcel. -/
def onObjects {α : Type} (x : Attempt Area Error α) : Attempt Parcel Error α :=
  x.inside Parcel.objects fun p a => { p with objects := a }

/-- Fails unless the data area has room for that many bytes. -/
def needRoom (len : Nat) : Attempt Parcel Error Unit := do
  let p ← get
  if len > p.data.free then throw .dataFull

/-! ## Writing -/

def writeData (bs : Bytes) : Attempt Parcel Error Unit := onData (Area.append .dataFull bs)

def writeObject (bs : Bytes) : Attempt Parcel Error Unit := onObjects (Area.append .objectsFull bs)

def writeUInt32 (v : UInt32) : Attempt Parcel Error Unit := writeData (Bytes.ofUInt32 v)

def writeInt32 (v : Int32) : Attempt Parcel Error Unit := writeUInt32 v.toUInt32

def writeUInt64 (v : UInt64) : Attempt Parcel Error Unit := writeData (Bytes.ofUInt64 v)

def writeInt64 (v : Int64) : Attempt Parcel Error Unit := writeUInt64 v.toUInt64

/-- One 16-bit unit for each byte. -/
def widen (bs : Bytes) : Bytes := bs.flatMap fun b => [b, 0]

/-- The size of a text of that many bytes behind its length: its units and one of zero. -/
def textSize (len : Nat) : Nat := 2 * (len + 1)

/-- Writes a text: the number of its UTF-8 bytes, a unit for each of them, and a unit of zero. -/
def writeString16 (s : String) : Attempt Parcel Error Unit := do
  let bs := Text.utf8 s
  needRoom (4 + padded (textSize bs.length))
  writeInt32 (Int32.ofNat bs.length)
  writeData (widen bs ++ [0, 0])

/-- The marker in front of every interface token. -/
def tokenMarker : Int32 := 0x100

/-- Writes an interface token: the marker and the name. -/
def writeInterfaceToken (name : String) : Attempt Parcel Error Unit := do
  needRoom (8 + padded (textSize (Text.utf8 name).length))
  writeInt32 tokenMarker
  writeString16 name

/-- Writes a flattened object: its length, the number of file descriptors, which is zero, and its bytes. -/
def writeFlattened (bs : Bytes) : Attempt Parcel Error Unit := do
  needRoom (8 + padded bs.length)
  writeInt32 (Int32.ofNat bs.length)
  writeInt32 0
  writeData bs

/-! ## Reading -/

def readData (len : Nat) : Attempt Parcel Error Bytes := onData (Area.take len)

def readObject (len : Nat) : Attempt Parcel Error Bytes := onObjects (Area.take len)

def readUInt32 : Attempt Parcel Error UInt32 := Bytes.toUInt32 <$> readData 4

def readInt32 : Attempt Parcel Error Int32 := UInt32.toInt32 <$> readUInt32

def readUInt64 : Attempt Parcel Error UInt64 := Bytes.toUInt64 <$> readData 8

def readInt64 : Attempt Parcel Error Int64 := UInt64.toInt64 <$> readUInt64

def lengthOf (v : Int32) : Except Error Nat :=
  if v.toInt < 0 then .error .invalidLength else .ok v.toInt.toNat

/-- The text in the given units, at most `room` UTF-8 bytes long. -/
def decodeText (room : Nat) (units : List UInt16) : Except Error String :=
  match Text.Utf16.decode room units with
  | .ok cs => .ok (String.ofList cs)
  | .error .unpairedSurrogate => .error .invalidString
  | .error .noRoom => .error .stringTooLong

/-- Reads a text of at most `room` UTF-8 bytes, or the null text, whose length is −1. -/
def readString16 (room : Nat) : Attempt Parcel Error (Option String) := Attempt.atomically do
  let len ← readInt32
  if len = -1 then return none
  let len ← Attempt.ofExcept (lengthOf len)
  let bs ← readData (textSize len)
  let s ← Attempt.ofExcept (decodeText room (Text.Utf16.units (bs.take (2 * len))))
  return some s

/-- The parcel with the read position of its data area put to `start`. -/
def seek (p : Parcel) (start : Nat) : Parcel := { p with data := { p.data with cursor := start } }

/-- Reads an interface token and answers the name; the marker may be any word.  Where no name is read behind the marker,
the marker is to be read again. -/
def readInterfaceToken (room : Nat) : Attempt Parcel Error String := do
  let start := (← get).data.cursor
  let _ ← readInt32
  match ← observing (readString16 room) with
  | .ok (some name) => return name
  | .ok none =>
    modify (seek · start)
    throw .nullInterfaceToken
  | .error e =>
    modify (seek · start)
    throw e

/-- Reads a flattened object; one with file descriptors is refused whatever its length. -/
def readFlattened : Attempt Parcel Error Bytes := Attempt.atomically do
  let len ← readInt32
  let fds ← readInt32
  if fds ≠ 0 then throw .fdsNotSupported
  let len ← Attempt.ofExcept (lengthOf len)
  readData len

end Parcel
end HorizonIpc
