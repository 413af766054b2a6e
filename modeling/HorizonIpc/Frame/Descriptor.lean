import HorizonIpc.Bits
import HorizonIpc.Bytes
/-!
# Frame.Descriptor — how a message names client memory

Three kinds of entry name a part of the client's memory.  A static is copied by the kernel: it keeps 42 address bits,
16 size bits and an index.  A mapped buffer is mapped into the server: it keeps 58 address bits, 36 size bits and a
mode.  A receive list entry says where a static may be put that the server sends back: 48 address bits and 16 size bits.
The address is cut into pieces that lie apart; `AddressParts` says where the cuts are.
-/
namespace HorizonIpc

/-- The pieces that descriptors cut an address into. -/
structure AddressParts where
  /-- Bits 0–31. -/
  low : UInt32
  /-- Bits 32–35. -/
  mid : UInt8
  /-- Bits 36 and up. -/
  high : UInt64
  deriving DecidableEq

namespace AddressParts

def split (address : UInt64) : AddressParts where
  low := address.toUInt32
  mid := ((address >>> (32 : UInt64)) &&& (0xF : UInt64)).toUInt8
  high := address >>> (36 : UInt64)

/-- The address that the pieces make up; bits that overlap are merged, bits past 63 are lost. -/
def join (p : AddressParts) : UInt64 :=
  p.low.toUInt64 ||| (p.mid.toUInt64 <<< (32 : UInt64)) ||| (p.high <<< (36 : UInt64))

end AddressParts

/-- What the kernel may assume of the memory behind a mapped buffer. -/
inductive BufferMode where
  | normal
  | nonSecure
  /-- A mode that the kernel refuses. -/
  | invalid
  | nonDevice
  deriving DecidableEq

namespace BufferMode

def bits : BufferMode → BitVec 2
  | normal => 0
  | nonSecure => 1
  | invalid => 2
  | nonDevice => 3

def ofBits (b : BitVec 2) : BufferMode :=
  if b = 0 then normal else if b = 1 then nonSecure else if b = 2 then invalid else nonDevice

def label : BufferMode → String
  | normal => "Normal"
  | nonSecure => "NonSecure"
  | invalid => "Invalid"
  | nonDevice => "NonDevice"

theorem ofBits_bits (m : BufferMode) : ofBits m.bits = m := by cases m <;> rfl

theorem bits_ofBits : ∀ b : BitVec 2, (ofBits b).bits = b := by decide

end BufferMode

/-- A part of client memory that the kernel copies to the other side. -/
structure StaticDescriptor where
  /-- Which receive slot of the other side it goes to. -/
  index : BitVec 6
  /-- Address bits 36–41. -/
  addressHigh : BitVec 6
  /-- Address bits 32–35. -/
  addressMid : BitVec 4
  size : BitVec 16
  /-- Address bits 0–31. -/
  addressLow : BitVec 32
  deriving DecidableEq

namespace StaticDescriptor

def width : Nat := 8

/-- The descriptor for `size` bytes at an address; bits that do not fit are dropped. -/
def describe (address : UInt64) (size index : Nat) : StaticDescriptor :=
  let parts := AddressParts.split address
  { index := BitVec.ofNat 6 index
    addressHigh := BitVec.ofNat 6 parts.high.toNat
    addressMid := BitVec.ofNat 4 parts.mid.toNat
    size := BitVec.ofNat 16 size
    addressLow := BitVec.ofNat 32 parts.low.toNat }

def fields (d : StaticDescriptor) : List Bits.Field :=
  [⟨6, d.index⟩, ⟨6, d.addressHigh⟩, ⟨4, d.addressMid⟩, ⟨16, d.size⟩, ⟨32, d.addressLow⟩]

def encode (d : StaticDescriptor) : Bytes := Bytes.ofNatLE width (Bits.pack d.fields)

def ofWord (w : Nat) : StaticDescriptor where
  index := Bits.field w 0 6
  addressHigh := Bits.field w 6 6
  addressMid := Bits.field w 12 4
  size := Bits.field w 16 16
  addressLow := Bits.field w 32 32

def decode (bs : Bytes) : StaticDescriptor := ofWord bs.toNatLE

def address (d : StaticDescriptor) : UInt64 :=
  AddressParts.join ⟨.ofBitVec d.addressLow, UInt8.ofNat d.addressMid.toNat, UInt64.ofNat d.addressHigh.toNat⟩

end StaticDescriptor

/-- A part of client memory that the kernel maps into the other side. -/
structure BufferDescriptor where
  /-- Size bits 0–31. -/
  sizeLow : BitVec 32
  /-- Address bits 0–31. -/
  addressLow : BitVec 32
  mode : BufferMode
  /-- Address bits 36–57. -/
  addressHigh : BitVec 22
  /-- Size bits 32–35. -/
  sizeHigh : BitVec 4
  /-- Address bits 32–35. -/
  addressMid : BitVec 4
  deriving DecidableEq

namespace BufferDescriptor

def width : Nat := 12

/-- The descriptor for `size` bytes at an address; bits that do not fit are dropped. -/
def describe (address : UInt64) (size : Nat) (mode : BufferMode) : BufferDescriptor :=
  let parts := AddressParts.split address
  { sizeLow := BitVec.ofNat 32 size
    addressLow := BitVec.ofNat 32 parts.low.toNat
    mode
    addressHigh := BitVec.ofNat 22 parts.high.toNat
    sizeHigh := BitVec.ofNat 4 (size >>> 32)
    addressMid := BitVec.ofNat 4 parts.mid.toNat }

def fields (d : BufferDescriptor) : List Bits.Field :=
  [⟨32, d.sizeLow⟩, ⟨32, d.addressLow⟩, ⟨2, d.mode.bits⟩, ⟨22, d.addressHigh⟩, ⟨4, d.sizeHigh⟩, ⟨4, d.addressMid⟩]

def encode (d : BufferDescriptor) : Bytes := Bytes.ofNatLE width (Bits.pack d.fields)

def ofWord (w : Nat) : BufferDescriptor where
  sizeLow := Bits.field w 0 32
  addressLow := Bits.field w 32 32
  mode := .ofBits (Bits.field w 64 2)
  addressHigh := Bits.field w 66 22
  sizeHigh := Bits.field w 88 4
  addressMid := Bits.field w 92 4

def decode (bs : Bytes) : BufferDescriptor := ofWord bs.toNatLE

def address (d : BufferDescriptor) : UInt64 :=
  AddressParts.join ⟨.ofBitVec d.addressLow, UInt8.ofNat d.addressMid.toNat, UInt64.ofNat d.addressHigh.toNat⟩

def size (d : BufferDescriptor) : Nat := d.sizeLow.toNat + (d.sizeHigh.toNat <<< 32)

end BufferDescriptor

/-- Where a static may be put that the other side sends back. -/
structure RecvEntry where
  /-- Address bits 0–31. -/
  addressLow : BitVec 32
  /-- Address bits 32–47. -/
  addressHigh : BitVec 16
  size : BitVec 16
  deriving DecidableEq

namespace RecvEntry

def width : Nat := 8

/-- The entry for `size` bytes at an address; bits that do not fit are dropped. -/
def describe (address : UInt64) (size : Nat) : RecvEntry where
  addressLow := BitVec.ofNat 32 address.toNat
  addressHigh := BitVec.ofNat 16 (address.toNat >>> 32)
  size := BitVec.ofNat 16 size

def fields (e : RecvEntry) : List Bits.Field := [⟨32, e.addressLow⟩, ⟨16, e.addressHigh⟩, ⟨16, e.size⟩]

def encode (e : RecvEntry) : Bytes := Bytes.ofNatLE width (Bits.pack e.fields)

def ofWord (w : Nat) : RecvEntry where
  addressLow := Bits.field w 0 32
  addressHigh := Bits.field w 32 16
  size := Bits.field w 48 16

def decode (bs : Bytes) : RecvEntry := ofWord bs.toNatLE

def address (e : RecvEntry) : UInt64 := UInt64.ofNat (e.addressLow.toNat + (e.addressHigh.toNat <<< 32))

end RecvEntry
end HorizonIpc
