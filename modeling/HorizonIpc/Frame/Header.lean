import HorizonIpc.Bits
import HorizonIpc.Bytes
/-!
# Frame.Header — the words in front of every message

The first eight bytes of a message give its type and how many entries each section has.  A message that carries a
process id or handles has four more bytes that count those.  Both records are packed fields (`Bits`), and what is
encoded is decoded again (`Header.ofWord_word`, `SpecialHeader.ofWord_word`).
-/
namespace HorizonIpc

/-- The first two words of a message. -/
structure Header where
  messageType : BitVec 16
  sendStatics : BitVec 4
  sendBuffers : BitVec 4
  recvBuffers : BitVec 4
  exchBuffers : BitVec 4
  dataWords : BitVec 10
  /-- The shape of the receive list: 0 for none, 2 for a single shared entry, 2 + n for n entries. -/
  recvListMode : BitVec 4
  /-- Where the receive list is; 0 for right behind the data words. -/
  recvListOffset : BitVec 11
  hasSpecial : Bool
  deriving DecidableEq

namespace Header

def width : Nat := 8

/-- The fields in the order of the word; six bits between the receive list's mode and offset are unused. -/
def fields (h : Header) : List Bits.Field :=
  [⟨16, h.messageType⟩, ⟨4, h.sendStatics⟩, ⟨4, h.sendBuffers⟩, ⟨4, h.recvBuffers⟩, ⟨4, h.exchBuffers⟩,
    ⟨10, h.dataWords⟩, ⟨4, h.recvListMode⟩, ⟨6, 0⟩, ⟨11, h.recvListOffset⟩, ⟨1, Bits.ofBool h.hasSpecial⟩]

def word (h : Header) : Nat := Bits.pack h.fields

def ofWord (w : Nat) : Header where
  messageType := Bits.field w 0 16
  sendStatics := Bits.field w 16 4
  sendBuffers := Bits.field w 20 4
  recvBuffers := Bits.field w 24 4
  exchBuffers := Bits.field w 28 4
  dataWords := Bits.field w 32 10
  recvListMode := Bits.field w 42 4
  recvListOffset := Bits.field w 52 11
  hasSpecial := Bits.toBool (Bits.field w 63 1)

def encode (h : Header) : Bytes := Bytes.ofNatLE width h.word

def decode (bs : Bytes) : Header := ofWord bs.toNatLE

/-- The header with the given field values, refused if one is too large for its field. -/
def ofValues? (messageType sendStatics sendBuffers recvBuffers exchBuffers dataWords recvListMode recvListOffset : Nat)
    (hasSpecial : Bool) : Option Header := do
  return {
    messageType := ← Bits.fit? 16 messageType
    sendStatics := ← Bits.fit? 4 sendStatics
    sendBuffers := ← Bits.fit? 4 sendBuffers
    recvBuffers := ← Bits.fit? 4 recvBuffers
    exchBuffers := ← Bits.fit? 4 exchBuffers
    dataWords := ← Bits.fit? 10 dataWords
    recvListMode := ← Bits.fit? 4 recvListMode
    recvListOffset := ← Bits.fit? 11 recvListOffset
    hasSpecial }

def label (h : Header) : String :=
  "Header \x7b message_type: " ++ toString h.messageType.toNat ++
    ", num_send_statics: " ++ toString h.sendStatics.toNat ++
    ", num_send_buffers: " ++ toString h.sendBuffers.toNat ++
    ", num_recv_buffers: " ++ toString h.recvBuffers.toNat ++
    ", num_exch_buffers: " ++ toString h.exchBuffers.toNat ++
    ", num_data_words: " ++ toString h.dataWords.toNat ++
    ", recv_static_mode: " ++ toString h.recvListMode.toNat ++
    ", recv_list_offset: " ++ toString h.recvListOffset.toNat ++
    ", has_special_header: " ++ toString h.hasSpecial ++ " \x7d"

/-- **Decoding a header's word gives the header.** -/
theorem ofWord_word (h : Header) : ofWord h.word = h := by
  obtain ⟨t, xs, as, bs, ws, dw, rm, ro, sp⟩ := h
  have cut := fun done f rest => Bits.field_pack done f rest
  simp only [ofWord, word, fields, Header.mk.injEq]
  refine ⟨cut [] ⟨16, t⟩ _, cut [⟨16, t⟩] ⟨4, xs⟩ _, cut [⟨16, t⟩, ⟨4, xs⟩] ⟨4, as⟩ _,
    cut [⟨16, t⟩, ⟨4, xs⟩, ⟨4, as⟩] ⟨4, bs⟩ _, cut [⟨16, t⟩, ⟨4, xs⟩, ⟨4, as⟩, ⟨4, bs⟩] ⟨4, ws⟩ _,
    cut [⟨16, t⟩, ⟨4, xs⟩, ⟨4, as⟩, ⟨4, bs⟩, ⟨4, ws⟩] ⟨10, dw⟩ _,
    cut [⟨16, t⟩, ⟨4, xs⟩, ⟨4, as⟩, ⟨4, bs⟩, ⟨4, ws⟩, ⟨10, dw⟩] ⟨4, rm⟩ _,
    cut [⟨16, t⟩, ⟨4, xs⟩, ⟨4, as⟩, ⟨4, bs⟩, ⟨4, ws⟩, ⟨10, dw⟩, ⟨4, rm⟩, ⟨6, 0⟩] ⟨11, ro⟩ _, ?_⟩
  exact (congrArg Bits.toBool (cut [⟨16, t⟩, ⟨4, xs⟩, ⟨4, as⟩, ⟨4, bs⟩, ⟨4, ws⟩, ⟨10, dw⟩, ⟨4, rm⟩, ⟨6, 0⟩, ⟨11, ro⟩]
    ⟨1, Bits.ofBool sp⟩ [])).trans (Bits.toBool_ofBool sp)

end Header

/-- The third word of a message that carries a process id or handles. -/
structure SpecialHeader where
  sendPid : Bool
  copyHandles : BitVec 4
  moveHandles : BitVec 4
  deriving DecidableEq

namespace SpecialHeader

def width : Nat := 4

/-- The fields in the order of the word; the upper bits are unused. -/
def fields (h : SpecialHeader) : List Bits.Field :=
  [⟨1, Bits.ofBool h.sendPid⟩, ⟨4, h.copyHandles⟩, ⟨4, h.moveHandles⟩]

def word (h : SpecialHeader) : Nat := Bits.pack h.fields

def ofWord (w : Nat) : SpecialHeader where
  sendPid := Bits.toBool (Bits.field w 0 1)
  copyHandles := Bits.field w 1 4
  moveHandles := Bits.field w 5 4

def encode (h : SpecialHeader) : Bytes := Bytes.ofNatLE width h.word

def decode (bs : Bytes) : SpecialHeader := ofWord bs.toNatLE

/-- The special header with the given field values, refused if one is too large for its field. -/
def ofValues? (sendPid : Bool) (copyHandles moveHandles : Nat) : Option SpecialHeader := do
  return {
    sendPid
    copyHandles := ← Bits.fit? 4 copyHandles
    moveHandles := ← Bits.fit? 4 moveHandles }

/-- **Decoding a special header's word gives the special header.** -/
theorem ofWord_word (h : SpecialHeader) : ofWord h.word = h := by
  obtain ⟨pid, c, m⟩ := h
  have cut := fun done f rest => Bits.field_pack done f rest
  simp only [ofWord, word, fields, SpecialHeader.mk.injEq]
  refine ⟨?_, cut [⟨1, Bits.ofBool pid⟩] ⟨4, c⟩ _, cut [⟨1, Bits.ofBool pid⟩, ⟨4, c⟩] ⟨4, m⟩ _⟩
  exact (congrArg Bits.toBool (cut [] ⟨1, Bits.ofBool pid⟩ _)).trans (Bits.toBool_ofBool pid)

end SpecialHeader
end HorizonIpc
