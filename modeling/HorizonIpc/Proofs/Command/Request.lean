import HorizonIpc.Proofs.Command.Layout
/-!
# Proofs.Command.Request — a request as the server reads it

A request that could be laid out is decoded to its command type, its command, its arguments and the sections of its
builder (`ofMessage_putArguments`).
-/
namespace HorizonIpc

open Bytes (zeros)

namespace Builder

/-- **A command header and arguments in the data words** of a request: the room behind the alignment is enough for both,
so the sizes of the receive statics stay whole. -/
theorem overlay_plainData (b : Builder) {gap : Nat} (hgap : gap ≤ PayloadHeader.alignment) (hdr : PayloadHeader)
    (arguments : Bytes) :
    ∃ tail, ((b.plainData (PayloadHeader.width + arguments.length)).overlay gap hdr.encode).overlay
      (gap + PayloadHeader.width) arguments = zeros gap ++ hdr.encode ++ (arguments ++ tail) := by
  have hroom : PayloadHeader.alignment + (PayloadHeader.width + arguments.length) ≤
      sizeTable (PayloadHeader.width + arguments.length) := le_alignUp (by decide) _
  unfold plainData
  rw [List.append_assoc, PayloadHeader.overlay_zeros_following hdr _ (by omega)]
  exact ⟨_, rfl⟩

end Builder

namespace Request

variable {b : Builder} {type : CommandType} {command : UInt32} {m m' : Message} {slot : Slot}

/-- The slot that a request is laid out with lies in the message and has room for the command header. -/
theorem slot_room {code : UInt16} {dataSize : Nat}
    (h : (b.finalize code (PayloadHeader.width + dataSize)).on m = (.ok slot, m')) :
    PayloadHeader.width ≤ slot.size ∧ slot.start + slot.size ≤ Message.size := by
  obtain ⟨-, hslot, hm⟩ := Builder.finalize_ok h
  generalize hc : b.contents code (PayloadHeader.width + dataSize) = c at hslot hm
  have hgap := c.shape.headerGap_lt
  have hdata : c.data.length = b.dataWords (PayloadHeader.width + dataSize) * Layout.wordWidth := by
    rw [← hc]
    exact b.length_plainData (PayloadHeader.width + dataSize)
  have htable := b.sizeTable_le (PayloadHeader.width + dataSize)
  have hroom : _ ≤ Builder.sizeTable (PayloadHeader.width + dataSize) := le_alignUp (by decide) _
  have hle := (c.upToRecvList_prefix.trans hm.prefix_bytes).length_le
  rw [Contents.upToRecvList, List.length_append, Contents.length_upToData, m'.size_eq] at hle
  rw [Shape.alignUp_eq_add_headerGap] at hslot
  rw [hslot]
  refine ⟨Nat.le_add_right _ _, ?_⟩
  show (Layout.ofShape c.shape).dataWords + c.shape.headerGap + (PayloadHeader.width + dataSize) ≤ 256
  omega

/-- **Starting a request** that can be laid out writes the command header where the payload starts. -/
theorem start_on {dataSize : Nat}
    (h : (b.finalize type.code (PayloadHeader.width + dataSize)).on m = (.ok slot, m')) :
    (start b type command dataSize).on m =
      (.ok slot, m'.write slot.start (PayloadHeader.request command 0).encode) := by
  obtain ⟨hwidth, hbound⟩ := slot_room h
  unfold start
  simp only [Attempt.on_bind, Attempt.on_pure, h, Slot.within_write_on _ hwidth hbound]

/-- **What starting a request does**: it lays the request out and writes the command header where the payload starts. -/
theorem start_ok {dataSize : Nat} (h : (start b type command dataSize).on m = (.ok slot, m')) :
    let c := b.contents type.code (PayloadHeader.width + dataSize)
    c.shape.validate = .ok () ∧
      slot = ⟨(Layout.ofShape c.shape).dataWords + c.shape.headerGap, PayloadHeader.width + dataSize⟩ ∧
      ∃ m₁ : Message, m₁.Holds c.bytes ∧ m' = m₁.write slot.start (PayloadHeader.request command 0).encode := by
  intro c
  obtain ⟨r, m₁, hf⟩ : ∃ r m₁, (b.finalize type.code (PayloadHeader.width + dataSize)).on m = (r, m₁) := ⟨_, _, rfl⟩
  cases r with
  | error e => simp [start, hf] at h
  | ok slot₁ =>
    rw [start_on hf] at h
    cases h
    obtain ⟨hv, hslot, hm⟩ := Builder.finalize_ok hf
    rw [Shape.alignUp_eq_add_headerGap] at hslot
    exact ⟨hv, hslot, m₁, hm, rfl⟩

/-- **A request that fits is started**, whatever the message held before. -/
theorem start_of_fits {dataSize : Nat} (h : b.Fits type.code (PayloadHeader.width + dataSize)) (m : Message) :
    ∃ slot m', (start b type command dataSize).on m = (.ok slot, m') := by
  obtain ⟨slot, m₁, hf⟩ := Builder.finalize_of_fits h m
  exact ⟨slot, _, start_on hf⟩

/-- **A message that holds a request header** at the aligned place of its data words is read as that request. -/
theorem ofMessage_of_shown {c : Contents} {front arguments : Bytes} (hv : c.shape.validate = .ok ()) (hm : c.Shown m)
    (hcode : c.messageType = type.code) (ht : type ≠ .close)
    (hdata : c.data = front ++ (PayloadHeader.request command 0).encode ++ arguments)
    (hfront : front.length = c.shape.headerGap) :
    ServerRequest.ofMessage m = .ok ⟨some type, c.view m, some command, arguments⟩ := by
  have htype : CommandType.ofCode? (c.view m).shape.messageType = some type := by
    show CommandType.ofCode? c.messageType = some type
    rw [hcode, CommandType.ofCode?_code]
  have hpayload := Contents.payload?_view hm hdata hfront (Nat.zero_le _)
  have hnot : ¬ some type = some CommandType.close := fun h => ht (Option.some.inj h)
  unfold ServerRequest.ofMessage
  rw [Contents.ofMessage_of_shown hv hm]
  show (if CommandType.ofCode? (c.view m).shape.messageType = some .close then _ else _) = _
  rw [htype, if_neg hnot]
  rw [hpayload]
  rfl

/-- **A request is decoded to what it was built from**: the command type, the command, the sections of the builder, and
arguments that begin with those copied in. -/
theorem ofMessage_putArguments {arguments : Bytes} (ht : type ≠ .close)
    (h : (start b type command arguments.length).on m = (.ok slot, m')) :
    let c := b.contents type.code (PayloadHeader.width + arguments.length)
    let sent := ((putArguments slot arguments).on m').2
    ∃ (data : Bytes) (hd : data.length = c.data.length) (tail : Bytes), (c.withData data hd).Shown sent ∧
      ServerRequest.ofMessage sent =
        .ok ⟨some type, (c.withData data hd).view sent, some command, arguments ++ tail⟩ := by
  obtain ⟨hv, hslot, m₁, hm, rfl⟩ := start_ok h
  generalize hc : b.contents type.code (PayloadHeader.width + arguments.length) = c at hv hslot hm ⊢
  have hplain : c.data = b.plainData (PayloadHeader.width + arguments.length) := by rw [← hc]; rfl
  have hgap := c.shape.headerGap_lt
  have hroom : c.shape.headerGap + PayloadHeader.width + arguments.length ≤ c.data.length := by
    have htable := b.sizeTable_le (PayloadHeader.width + arguments.length)
    have halign : _ ≤ Builder.sizeTable (PayloadHeader.width + arguments.length) := le_alignUp (by decide) _
    rw [hplain, Builder.length_plainData]
    omega
  obtain ⟨tail, hdata⟩ := b.overlay_plainData (Nat.le_of_lt hgap) (.request command 0) arguments
  rw [← hplain] at hdata
  have hsent := Contents.bytes_write_payload hm (.request command 0) hroom
  have hshown : (c.withData _ _).Shown _ := ⟨_, hsent.symm⟩
  subst hslot
  refine ⟨_, _, tail, hshown, ofMessage_of_shown ?_ hshown ?_ ht hdata ?_⟩
  · rw [Contents.shape_withData]
    exact hv
  · rw [← hc]
    rfl
  · rw [Contents.shape_withData, Bytes.length_zeros]

end Request
end HorizonIpc
