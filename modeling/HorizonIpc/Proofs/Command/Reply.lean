import HorizonIpc.Proofs.Command.Layout
/-!
# Proofs.Command.Reply — a reply as the client reads it

A reply that a server could write is accepted by the client exactly if its status is success, and then hands out the
data, the handles and the statics that it was written with (`ofMessage_write`).  Zeros fill the data words up behind the
data, so a client that expects more data than there is may find some of them (`shown_write`).
-/
namespace HorizonIpc

open Bytes (zeros)

namespace Reply

variable {r : Reply} {m m' : Message}

/-- The sections of the reply, with nothing in the data words yet. -/
def contents (r : Reply) : Contents where
  copyHandles := r.copyHandles
  moveHandles := r.moveHandles
  sendStatics := Builder.staticDescriptors r.sendStatics
  data := zeros (r.shape.dataWords * Layout.wordWidth)
  data_mod := by rw [Bytes.length_zeros]; exact Nat.mul_mod_left _ _

theorem shape_contents (r : Reply) : r.contents.shape = r.shape := by
  unfold contents Contents.shape
  simp only [Bytes.length_zeros, Builder.staticDescriptors, List.length_map, List.length_zipIdx]
  rw [Nat.mul_div_cancel _ (by decide)]
  rfl

theorem data_room (r : Reply) :
    PayloadHeader.alignment + PayloadHeader.width + r.data.length ≤ r.contents.data.length := by
  show _ ≤ (zeros _).length
  rw [Bytes.length_zeros]
  exact le_alignUp (by decide) _

/-- **What writing a reply does**: it lays the sections out and writes the header and the data into the data words. -/
theorem write_ok (h : r.write.on m = (.ok (), m')) :
    r.contents.shape.validate = .ok () ∧ ∃ m₁ : Message, m₁.Holds r.contents.bytes ∧
      m' = (m₁.write ((Layout.ofShape r.contents.shape).dataWords + r.contents.shape.headerGap)
        (PayloadHeader.response r.status).encode).write
        ((Layout.ofShape r.contents.shape).dataWords + r.contents.shape.headerGap + PayloadHeader.width) r.data := by
  unfold write at h
  obtain ⟨o, m₀, hs⟩ : ∃ o m₀, (Frame.start r.shape).on m = (o, m₀) := ⟨_, _, rfl⟩
  cases o with
  | error e => simp [hs] at h
  | ok layout =>
    obtain ⟨hv, hf, rfl, rfl⟩ := Frame.start_ok hs
    simp only [hs, Attempt.mapError_ok, Attempt.on_bind, Attempt.on_mapError, Attempt.on_modify, Prod.mk.injEq,
      true_and] at h
    rw [← shape_contents] at hv hf h
    rw [Shape.alignUp_eq_add_headerGap] at h
    refine ⟨hv, _, ?_, h.symm⟩
    have hfit : r.contents.bytes.length ≤ Message.size := by rw [Contents.length_bytes]; exact hf
    have hbytes : r.contents.bytes = r.contents.upToSendBuffers ++ zeros (r.shape.dataWords * Layout.wordWidth) := by
      show _ ++ [] ++ [] ++ [] ++ _ ++ [] = _
      rw [List.append_nil, List.append_nil, List.append_nil, List.append_nil]
      rfl
    have hstatics := Builder.flatMap_staticDescriptors r.sendStatics
    have hholds := r.contents.holds_upToSendBuffers (.inl rfl) hfit
    rw [show r.contents.sendStatics.flatMap StaticDescriptor.encode = _ from hstatics] at hholds
    rw [hbytes, List.length_append, Bytes.length_zeros] at hfit
    rw [hbytes]
    exact hholds.append_zeros hfit

/-- **A message that holds a response header** at the aligned place of its data words is read by its status. -/
theorem ofMessage_of_shown {c : Contents} {front data : Bytes} {status : UInt32} {dataSize : Nat}
    (hv : c.shape.validate = .ok ()) (hm : c.Shown m)
    (hdata : c.data = front ++ (PayloadHeader.response status).encode ++ data)
    (hfront : front.length = c.shape.headerGap) (hk : dataSize ≤ data.length) :
    Response.ofMessage m dataSize = (ErrorCode.ofWord? status).elim
      (.ok ⟨data.take dataSize, c.copyHandles, c.moveHandles, c.sendStatics⟩) fun e => .error (.service e) := by
  have hpayload := Contents.payload?_view hm hdata hfront hk
  unfold Response.ofMessage
  rw [Contents.ofMessage_of_shown hv hm, Attempt.mapError_ok]
  have hmagic : ¬ (PayloadHeader.response status).magic ≠ PayloadHeader.responseMagic := fun hne => hne rfl
  have hsubject : (PayloadHeader.response status).subject = status := rfl
  simp only [bind, Except.bind, hpayload]
  rw [if_neg hmagic, hsubject]
  cases ErrorCode.ofWord? status with
  | some e => rfl
  | none =>
    show Except.ok (Response.mk (data.take dataSize) (c.view m).copyHandles (c.view m).moveHandles
      (c.view m).sendStatics) = _
    rw [Contents.copyHandles_view hm, Contents.moveHandles_view hm, Contents.sendStatics_view hm]
    rfl

/-- How many zeros stand behind the data, up to the end of the data words. -/
def slack (r : Reply) : Nat :=
  r.contents.data.length - r.contents.shape.headerGap - PayloadHeader.width - r.data.length

/-- **What a written reply holds**: its sections, and among the data words the header, the data and zeros behind. -/
theorem shown_write (h : r.write.on m = (.ok (), m')) :
    ∃ (data : Bytes) (hd : data.length = r.contents.data.length),
      (r.contents.withData data hd).shape.validate = .ok () ∧ (r.contents.withData data hd).Shown m' ∧
      (r.contents.withData data hd).data = zeros (r.contents.withData data hd).shape.headerGap ++
        (PayloadHeader.response r.status).encode ++ (r.data ++ zeros r.slack) := by
  obtain ⟨hv, m₁, hm, rfl⟩ := write_ok h
  have hgap := r.contents.shape.headerGap_lt
  have hroom : r.contents.shape.headerGap + PayloadHeader.width + r.data.length ≤ r.contents.data.length := by
    have := r.data_room
    omega
  have hplain : r.contents.data = zeros r.contents.data.length ++ [] := by
    rw [List.append_nil]
    show zeros _ = zeros (zeros _).length
    rw [Bytes.length_zeros]
  have hdata := PayloadHeader.overlay_zeros_following (.response r.status) [] hroom
  rw [← hplain, List.append_nil] at hdata
  have hshown : (r.contents.withData _ _).Shown _ :=
    ⟨_, (Contents.bytes_write_payload hm (.response r.status) hroom).symm⟩
  refine ⟨_, _, ?_, hshown, ?_⟩
  · rw [Contents.shape_withData]
    exact hv
  · rw [Contents.shape_withData]
    exact hdata

/-- **A reply that is written is read as it was meant**: a status other than success is the service's error, and with
success come the data asked for, the handles and the statics. -/
theorem ofMessage_write {dataSize : Nat} (h : r.write.on m = (.ok (), m')) (hk : dataSize ≤ r.data.length) :
    Response.ofMessage m' dataSize =
      (ErrorCode.ofWord? r.status).elim
        (.ok ⟨r.data.take dataSize, r.copyHandles, r.moveHandles, Builder.staticDescriptors r.sendStatics⟩)
        fun e => .error (.service e) := by
  obtain ⟨data, hd, hv, hshown, hdata⟩ := shown_write h
  rw [ofMessage_of_shown hv hshown hdata (Bytes.length_zeros _) (Nat.le_trans hk (by rw [List.length_append]; omega)),
    List.take_append_of_le_length hk]
  rfl

end Reply
end HorizonIpc
