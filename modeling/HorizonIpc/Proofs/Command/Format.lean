import HorizonIpc.Proofs.Command.Layout
/-!
# Proofs.Command.Format — a request, byte for byte

`Format.request` is a request written out as numbers and strings, without the layout, the bit fields and the descriptors
that the builder goes through.  A request that could be laid out is exactly these bytes and zeros up to the end of the
message, and its payload is a stretch of zeros in front of the sizes of the receive statics (`Builder.finalize_format`).
So a mistake that the encoders share with the decoders would show here.
-/
namespace HorizonIpc

open Bytes (zeros ofNatLE)

namespace Format

def announces (b : Builder) : Bool := b.sendPid || !b.copyHandles.isEmpty || !b.moveHandles.isEmpty

/-- Where the sizes of the receive statics stand in the data words. -/
def table (payloadSize : Nat) : Nat := 16 + payloadSize + payloadSize % 2

def words (b : Builder) (payloadSize : Nat) : Nat := (table payloadSize + 2 * b.recvStatics.length + 3) / 4

def header (b : Builder) (messageType : UInt16) (payloadSize : Nat) : Nat :=
  messageType.toNat + b.sendStatics.length * 2 ^ 16 + b.sendBuffers.length * 2 ^ 20 + b.recvBuffers.length * 2 ^ 24 +
    -- a request has no exchange buffers
    0 * 2 ^ 28 + words b payloadSize * 2 ^ 32 +
    (if b.recvStatics = [] then 0 else 2 + b.recvStatics.length) * 2 ^ 42 + (announces b).toNat * 2 ^ 63

def special (b : Builder) : Nat := b.sendPid.toNat + b.copyHandles.length * 2 + b.moveHandles.length * 2 ^ 5

def static (r : Region) (index : Nat) : Nat :=
  index % 2 ^ 6 + r.address.toNat / 2 ^ 36 % 2 ^ 6 * 2 ^ 6 + r.address.toNat / 2 ^ 32 % 2 ^ 4 * 2 ^ 12 +
    r.length % 2 ^ 16 * 2 ^ 16 + r.address.toNat % 2 ^ 32 * 2 ^ 32

def mode : BufferMode → Nat
  | .normal => 0
  | .nonSecure => 1
  | .invalid => 2
  | .nonDevice => 3

def buffer (m : Mapping) : Nat :=
  m.region.length % 2 ^ 32 + m.region.address.toNat % 2 ^ 32 * 2 ^ 32 + mode m.mode * 2 ^ 64 +
    m.region.address.toNat / 2 ^ 36 % 2 ^ 22 * 2 ^ 66 + m.region.length / 2 ^ 32 % 2 ^ 4 * 2 ^ 88 +
    m.region.address.toNat / 2 ^ 32 % 2 ^ 4 * 2 ^ 92

def entry (r : Region) : Nat :=
  r.address.toNat % 2 ^ 32 + r.address.toNat / 2 ^ 32 % 2 ^ 16 * 2 ^ 32 + r.length % 2 ^ 16 * 2 ^ 48

def front (b : Builder) (messageType : UInt16) (payloadSize : Nat) : Bytes :=
  ofNatLE 8 (header b messageType payloadSize) ++
  (if announces b then ofNatLE 4 (special b) else []) ++
  (if b.sendPid then zeros 8 else []) ++
  b.copyHandles.flatMap (fun h => ofNatLE 4 h.toNat) ++
  b.moveHandles.flatMap (fun h => ofNatLE 4 h.toNat) ++
  b.sendStatics.zipIdx.flatMap (fun (r, i) => ofNatLE 8 (static r i)) ++
  b.sendBuffers.flatMap (fun m => ofNatLE 12 (buffer m)) ++
  b.recvBuffers.flatMap (fun m => ofNatLE 12 (buffer m))

/-- The data words: zeros but for the sizes of the receive statics. -/
def data (b : Builder) (payloadSize : Nat) : Bytes :=
  zeros (table payloadSize) ++ b.recvStatics.flatMap (fun r => ofNatLE 2 r.length) ++
    zeros (words b payloadSize * 4 - (table payloadSize + 2 * b.recvStatics.length))

def request (b : Builder) (messageType : UInt16) (payloadSize : Nat) : Bytes :=
  front b messageType payloadSize ++ data b payloadSize ++ b.recvStatics.flatMap (fun r => ofNatLE 8 (entry r))

end Format

/-! ## the packed records as numbers -/

theorem StaticDescriptor.encode_describe (r : Region) (index : Nat) :
    (describe r.address r.length index).encode = ofNatLE 8 (Format.static r index) := by
  have hpack : Bits.pack (describe r.address r.length index).fields = Format.static r index := by
    simp only [fields, describe, Bits.pack, Nat.shiftLeft_eq, BitVec.toNat_ofNat, AddressParts.toNat_split_low,
      AddressParts.toNat_split_mid, AddressParts.toNat_split_high, Format.static]
    omega
  rw [encode, hpack]
  rfl

theorem BufferMode.toNat_bits (m : BufferMode) : m.bits.toNat = Format.mode m := by cases m <;> rfl

theorem BufferDescriptor.encode_describe (m : Mapping) :
    (describe m.region.address m.region.length m.mode).encode = ofNatLE 12 (Format.buffer m) := by
  have hpack : Bits.pack (describe m.region.address m.region.length m.mode).fields = Format.buffer m := by
    simp only [fields, describe, Bits.pack, Nat.shiftLeft_eq, Nat.shiftRight_eq_div_pow, BitVec.toNat_ofNat,
      AddressParts.toNat_split_low, AddressParts.toNat_split_mid, AddressParts.toNat_split_high, BufferMode.toNat_bits,
      Format.buffer]
    omega
  rw [encode, hpack]
  rfl

theorem RecvEntry.encode_describe (r : Region) :
    (describe r.address r.length).encode = ofNatLE 8 (Format.entry r) := by
  have hpack : Bits.pack (describe r.address r.length).fields = Format.entry r := by
    simp only [fields, describe, Bits.pack, Nat.shiftLeft_eq, Nat.shiftRight_eq_div_pow, BitVec.toNat_ofNat, Format.entry]
    omega
  rw [encode, hpack]
  rfl

namespace Builder

variable {b : Builder} {messageType : UInt16} {payloadSize : Nat}

theorem sizeTable_eq (payloadSize : Nat) : sizeTable payloadSize = Format.table payloadSize := by
  unfold sizeTable alignUp unitsFor PayloadHeader.alignment Format.table
  omega

theorem dataWords_eq (b : Builder) (payloadSize : Nat) : b.dataWords payloadSize = Format.words b payloadSize := by
  unfold dataWords Format.words
  rw [sizeTable_eq]
  rfl

theorem needsSpecial_eq (b : Builder) (messageType : UInt16) (payloadSize : Nat) :
    (b.shape messageType payloadSize).needsSpecial = Format.announces b := by
  unfold shape Shape.needsSpecial Format.announces
  cases b.copyHandles <;> cases b.moveHandles <;> simp

theorem recvListMode_eq (hmode : Shape.recvModeFits b.recvMode = true) :
    (b.shape messageType payloadSize).header.recvListMode.toNat =
      if b.recvStatics = [] then 0 else 2 + b.recvStatics.length := by
  unfold recvMode at hmode
  unfold shape Shape.header
  cases hr : b.recvStatics with
  | nil => rfl
  | cons r rs =>
    rw [hr] at hmode
    have hn : rs.length + 1 ≤ 13 := by simpa [Shape.recvModeFits, Shape.maxCount] using hmode
    show (2 + (rs.length + 1)) % 2 ^ 4 = 2 + (rs.length + 1)
    omega

/-- **The headers of a request that can be announced** are cut nowhere. -/
theorem headers_shape (hv : (b.shape messageType payloadSize).validate = .ok ()) :
    (b.shape messageType payloadSize).headers = ofNatLE 8 (Format.header b messageType payloadSize) ++
      if Format.announces b then ofNatLE 4 (Format.special b) else [] := by
  obtain ⟨⟨h1, h2, h3, -, h5, h6⟩, hmode, hd⟩ := (Shape.validate_eq_ok_iff _).1 hv
  -- the bounds that validation checks are the widths of the fields
  have cut4 {n : Nat} (hn : n ≤ Shape.maxCount) : (BitVec.ofNat 4 n).toNat = n :=
    (BitVec.toNat_ofNat _ _).trans (Nat.mod_eq_of_lt (Nat.lt_succ_of_le hn))
  have hwords : (b.shape messageType payloadSize).header.dataWords.toNat = Format.words b payloadSize := by
    rw [← dataWords_eq]
    exact (BitVec.toNat_ofNat _ _).trans (Nat.mod_eq_of_lt (Nat.lt_succ_of_le hd))
  have hheader : (b.shape messageType payloadSize).header.word = Format.header b messageType payloadSize := by
    have hstatics : (b.shape messageType payloadSize).header.sendStatics.toNat = b.sendStatics.length := cut4 h1
    have hsends : (b.shape messageType payloadSize).header.sendBuffers.toNat = b.sendBuffers.length := cut4 h2
    have hrecvs : (b.shape messageType payloadSize).header.recvBuffers.toNat = b.recvBuffers.length := cut4 h3
    have hflag : (b.shape messageType payloadSize).header.hasSpecial = Format.announces b := needsSpecial_eq ..
    have htype : (b.shape messageType payloadSize).header.messageType.toNat = messageType.toNat := rfl
    have hexch : (b.shape messageType payloadSize).header.exchBuffers.toNat = 0 := rfl
    have hoffset : (b.shape messageType payloadSize).header.recvListOffset.toNat = 0 := rfl
    rw [Header.word_eq, recvListMode_eq hmode, hwords, hstatics, hsends, hrecvs, hflag, htype, hexch, hoffset,
      Nat.zero_mul (2 ^ 52), Nat.add_zero]
    unfold Format.header
    rfl
  have hspecial : (b.shape messageType payloadSize).special.word = Format.special b := by
    have hcopies : (b.shape messageType payloadSize).special.copyHandles.toNat = b.copyHandles.length := cut4 h5
    have hmoves : (b.shape messageType payloadSize).special.moveHandles.toNat = b.moveHandles.length := cut4 h6
    rw [SpecialHeader.word_eq, hcopies, hmoves]
    rfl
  unfold Shape.headers Header.encode SpecialHeader.encode
  rw [hheader, hspecial, needsSpecial_eq]
  rfl

/-! ## the sections of a request -/

theorem pidSlot_contents (b : Builder) (messageType : UInt16) (payloadSize : Nat) :
    (b.contents messageType payloadSize).pidSlot = if b.sendPid then zeros 8 else [] := by
  unfold contents Contents.pidSlot
  cases b.sendPid <;> rfl

theorem upToData_contents (hv : (b.shape messageType payloadSize).validate = .ok ()) :
    (b.contents messageType payloadSize).upToData = Format.front b messageType payloadSize := by
  have hcopies : (b.contents messageType payloadSize).copyHandles = b.copyHandles := rfl
  have hmoves : (b.contents messageType payloadSize).moveHandles = b.moveHandles := rfl
  have hexch : (b.contents messageType payloadSize).exchBuffers = [] := rfl
  have hstatics : (b.contents messageType payloadSize).sendStatics.flatMap StaticDescriptor.encode =
      b.sendStatics.zipIdx.flatMap fun (r, i) => ofNatLE 8 (Format.static r i) := by
    simp only [contents, flatMap_staticDescriptors, encodeStatics, StaticDescriptor.encode_describe]
  have hsends : (b.contents messageType payloadSize).sendBuffers.flatMap BufferDescriptor.encode =
      b.sendBuffers.flatMap fun m => ofNatLE 12 (Format.buffer m) := by
    simp only [contents, List.flatMap_map, bufferDescriptor, BufferDescriptor.encode_describe]
  have hrecvs : (b.contents messageType payloadSize).recvBuffers.flatMap BufferDescriptor.encode =
      b.recvBuffers.flatMap fun m => ofNatLE 12 (Format.buffer m) := by
    simp only [contents, List.flatMap_map, bufferDescriptor, BufferDescriptor.encode_describe]
  unfold Contents.upToData Contents.upToExchBuffers Contents.upToRecvBuffers Contents.upToSendBuffers
    Contents.upToSendStatics Contents.upToMoveHandles Contents.upToCopyHandles Format.front
  rw [shape_contents, headers_shape hv, pidSlot_contents, hcopies, hmoves, hstatics, hsends, hrecvs, hexch,
    List.flatMap_nil, List.append_nil]
  rfl

theorem plainData_eq (b : Builder) (payloadSize : Nat) : b.plainData payloadSize = Format.data b payloadSize := by
  unfold plainData Format.data
  rw [sizeTable_eq, dataWords_eq]
  rfl

/-- **The sections of a request, one behind another**, are its format. -/
theorem bytes_contents (hv : (b.shape messageType payloadSize).validate = .ok ()) :
    (b.contents messageType payloadSize).bytes = Format.request b messageType payloadSize := by
  have hdata : (b.contents messageType payloadSize).data = Format.data b payloadSize := plainData_eq b payloadSize
  have hlist : (b.contents messageType payloadSize).recvList.flatMap RecvEntry.encode =
      b.recvStatics.flatMap fun r => ofNatLE 8 (Format.entry r) := by
    simp only [contents, List.flatMap_map, RecvEntry.encode_describe]
  unfold Contents.bytes Contents.upToRecvList Format.request
  rw [upToData_contents hv, hdata, hlist]

/-- **A request is its format**, whatever the message held before: the sections one behind another and zeros up to the
end of the message.  The payload starts at the first multiple of sixteen in the data words, is all zeros and ends in
front of the sizes of the receive statics. -/
theorem finalize_format {b : Builder} {messageType : UInt16} {payloadSize : Nat} {m m' : Message} {slot : Slot}
    (h : (b.finalize messageType payloadSize).on m = (.ok slot, m')) :
    let front := (Format.front b messageType payloadSize).length
    let size := (Format.request b messageType payloadSize).length
    size ≤ 256 ∧ m'.bytes = Format.request b messageType payloadSize ++ zeros (256 - size) ∧
      slot.size = payloadSize ∧ slot.start % 16 = 0 ∧ front ≤ slot.start ∧ slot.start < front + 16 ∧
      slot.start + payloadSize ≤ front + Format.table payloadSize ∧
      m'.window slot.start payloadSize = zeros payloadSize := by
  intro front size
  obtain ⟨hv, hslot, hm⟩ := finalize_ok h
  rw [shape_contents] at hv
  have hbytes := bytes_contents hv
  have hfront : (Layout.ofShape (b.contents messageType payloadSize).shape).dataWords = front := by
    rw [← Contents.length_upToData, upToData_contents hv]
  have hshown := hm.prefix_bytes
  rw [hbytes] at hm hshown
  rw [hfront] at hslot
  have hle : front ≤ slot.start := by rw [hslot]; exact le_alignUp (by decide) front
  have hlt : slot.start < front + 16 := by rw [hslot]; exact alignUp_lt (by decide) front
  have hpayload : slot.start + payloadSize ≤ front + Format.table payloadSize := by
    unfold Format.table
    omega
  have hsize := hshown.length_le
  rw [m'.size_eq] at hsize
  refine ⟨hsize, hm, by rw [hslot], by rw [hslot]; exact alignUp_mod _ _, hle, hlt, hpayload, ?_⟩
  -- the payload lies in the first string of zeros of the data words: alignment leaves it a gap of less than sixteen
  obtain ⟨gap, hgap⟩ := Nat.exists_eq_add_of_le hle
  unfold Message.Holds Format.request Format.data at hm
  simp only [List.append_assoc] at hm
  rw [← List.append_assoc] at hm
  have hzeros : gap + payloadSize ≤ Format.table payloadSize := by omega
  unfold Message.window
  rw [Bytes.window_inside hm hgap (by rw [Bytes.length_zeros]; exact hzeros), Bytes.window_zeros hzeros]

/-- A process id, a handle, a static, a mapped buffer and a receive static, in a message that was not blank. -/
theorem finalize_format_mixed :
    let b : Builder :=
      { sendPid := true
        copyHandles := [0x11223344]
        sendStatics := [⟨0x123456789A, 5⟩]
        recvBuffers := [⟨⟨0x2000, 0x400⟩, .nonSecure⟩]
        recvStatics := [⟨0x3000, 16⟩] }
    let run := (b.finalize 4 3).on (.filled 0xEE)
    run = (.ok ⟨48, 3⟩, run.2) ∧ run.2.bytes = [4, 0, 1, 1, 6, 12, 0, 0x80, 3, 0, 0, 0, 0, 0, 0, 0, 0, 0, 0, 0, 0x44, 0x33,
        0x22, 0x11, 0x40, 0x20, 5, 0, 0x9A, 0x78, 0x56, 0x34, 0, 4, 0, 0, 0, 0x20, 0, 0, 1, 0, 0, 0] ++ zeros 20 ++
      [16, 0, 0, 0] ++ [0, 0x30, 0, 0, 0, 0, 16, 0] ++ zeros 180 ∧
      run.2.window 48 3 = [0, 0, 0] := by
  intro b run
  have hrun : run = (.ok ⟨48, 3⟩, run.2) := Attempt.on_eq_ok (by decide +kernel)
  obtain ⟨-, hbytes, -, -, -, -, -, hpayload⟩ := finalize_format hrun
  refine ⟨hrun, hbytes.trans ?_, hpayload⟩
  decide +kernel

end Builder
end HorizonIpc
