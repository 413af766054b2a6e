import HorizonIpc.Parcel.Basic
/-!
# Parcel.Wire — parcels as byte strings

A parcel is sent as four words, the size and the offset of each area, and the bytes of the two areas behind them.  A
parcel received may have its areas anywhere in the bytes received.
-/
namespace HorizonIpc
namespace Parcel

/-- The size of the buffers that parcels are sent in. -/
def stagingSize : Nat := 0x400

/-- The four words in front of a parcel. -/
structure WireHeader where
  dataSize : UInt32
  dataOffset : UInt32
  objectsSize : UInt32
  objectsOffset : UInt32
  deriving DecidableEq

namespace WireHeader

def width : Nat := 16

def encode (h : WireHeader) : Bytes :=
  Bytes.ofUInt32 h.dataSize ++ Bytes.ofUInt32 h.dataOffset ++ Bytes.ofUInt32 h.objectsSize ++
    Bytes.ofUInt32 h.objectsOffset

def decode (bs : Bytes) : WireHeader where
  dataSize := Bytes.toUInt32 bs
  dataOffset := Bytes.toUInt32 (bs.drop 4)
  objectsSize := Bytes.toUInt32 (bs.drop 8)
  objectsOffset := Bytes.toUInt32 (bs.drop 12)

end WireHeader

/-- The header of a parcel that is sent. -/
def wireHeader (p : Parcel) : WireHeader where
  dataSize := UInt32.ofNat p.data.extent
  dataOffset := UInt32.ofNat WireHeader.width
  objectsSize := UInt32.ofNat p.objects.extent
  objectsOffset := UInt32.ofNat (WireHeader.width + p.data.extent)

/-- How many bytes a parcel takes that is sent. -/
def wireSize (p : Parcel) : Nat := WireHeader.width + p.data.extent + p.objects.extent

/-- The bytes of a parcel that is sent. -/
def wire (p : Parcel) : Bytes := p.wireHeader.encode ++ p.data.written ++ p.objects.written

/-- Writes a parcel at the start of a staging buffer and answers how many bytes it takes. -/
def serialize (p : Parcel) : Attempt Bytes Error Nat := do
  let staging ← get
  if p.wireSize > staging.length then throw .stagingTooSmall
  set (Bytes.overlay staging 0 p.wire)
  return p.wireSize

/-- The part of the bytes received that a header names.  A part without bytes may be anywhere. -/
def part (received : Bytes) (offset size : UInt32) : Except Error Bytes :=
  if size = 0 then .ok []
  else if size.toNat > capacity then .error .replyOutOfBounds
  else if offset.toNat + size.toNat > received.length then .error .replyOutOfBounds
  else .ok (Bytes.window received offset.toNat size.toNat)

/-- Replaces the contents of a parcel by those received, and reads from the start.  Bytes that do not hold what their
header names are refused, and then the parcel stays as it was. -/
def deserialize (received : Bytes) : Attempt Parcel Error Unit := do
  if received.length < WireHeader.width then throw .replyOutOfBounds
  let h := WireHeader.decode received
  let data ← Attempt.ofExcept (part received h.dataOffset h.dataSize)
  let objects ← Attempt.ofExcept (part received h.objectsOffset h.objectsSize)
  modify fun p => ⟨p.data.replace data, p.objects.replace objects⟩

end Parcel
end HorizonIpc
