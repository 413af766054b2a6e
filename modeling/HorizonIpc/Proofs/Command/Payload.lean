import HorizonIpc.Command.Payload
import HorizonIpc.Proofs.Frame.Contents
/-!
# Proofs.Command.Payload — the command header among the data words

A command header that stands at the aligned place of the data words is found there with everything behind it
(`payload?_view`).  Writing into the data words of a message changes these and nothing else (`bytes_write_data`).
-/
namespace HorizonIpc

open Bytes (zeros)

namespace PayloadHeader

@[simp] theorem length_encode (h : PayloadHeader) : h.encode.length = width := rfl

theorem decode_encode (h : PayloadHeader) : decode h.encode = h := by
  obtain ⟨h0, h4, h8, h12⟩ := Bytes.fourWords h.magic h.version h.subject h.token []
  rw [List.append_nil] at h0 h4 h8 h12
  unfold decode encode
  rw [h0, h4, h8, h12]

/-- Writing the header succeeds on a payload that has room for it, and leaves the rest of the payload. -/
theorem write_on {payload : Bytes} (h : PayloadHeader) (hp : width ≤ payload.length) :
    h.write.on payload = (.ok (payload.length - width), payload.overlay 0 h.encode) := by
  unfold write
  have hlt : ¬ payload.length < width := by omega
  simp [hlt, Except.map]

/-- **A header and what follows it written over zeros**, in front of anything else. -/
theorem overlay_zeros_following (h : PayloadHeader) {gap room : Nat} {following : Bytes} (behind : Bytes)
    (hroom : gap + width + following.length ≤ room) :
    ((zeros room ++ behind).overlay gap h.encode).overlay (gap + width) following =
      zeros gap ++ h.encode ++ (following ++ (zeros (room - gap - width - following.length) ++ behind)) := by
  have hlen := length_encode h
  have hfirst : gap + h.encode.length ≤ room := by omega
  have hfront : (zeros gap ++ h.encode).length = gap + width := by
    rw [List.length_append, Bytes.length_zeros, hlen]
  have hsecond : following.length ≤ room - (gap + h.encode.length) := by omega
  rw [Bytes.overlay_append_left (by rw [Bytes.length_zeros]; exact hfirst), Bytes.overlay_zeros hfirst,
    Bytes.overlay_append_left ?_, Bytes.overlay_behind rfl hfront.symm hsecond, hlen, Nat.sub_add_eq]
  · simp only [List.append_assoc]
  · rw [List.length_append, hfront, Bytes.length_zeros]
    omega

end PayloadHeader

namespace Slot

/-- **Writing a command header into a slot** is writing it into the message where the slot starts. -/
theorem within_write_on {s : Slot} {m : Message} (h : PayloadHeader) (hw : PayloadHeader.width ≤ s.size)
    (hs : s.start + s.size ≤ Message.size) :
    (s.within h.write).on m = (.ok (s.size - PayloadHeader.width), m.write s.start h.encode) := by
  have hfit : s.start + s.size ≤ m.bytes.length := by rw [m.size_eq]; exact hs
  have hlen : (m.window s.start s.size).length = s.size := Bytes.length_window hfit
  have hsame : m.write s.start ((m.window s.start s.size).overlay 0 h.encode) = m.write s.start h.encode :=
    Message.ext_bytes (Bytes.overlay_overlay_window hfit (by rw [PayloadHeader.length_encode]; exact hw))
  unfold within
  rw [Attempt.on_inside, PayloadHeader.write_on h (by rw [hlen]; exact hw), hlen]
  exact congrArg _ hsame

end Slot

namespace Shape

/-- How far the command header stands behind the start of the data words. -/
def headerGap (s : Shape) : Nat :=
  alignUp PayloadHeader.alignment (Layout.ofShape s).dataWords - (Layout.ofShape s).dataWords

theorem alignUp_eq_add_headerGap (s : Shape) :
    alignUp PayloadHeader.alignment (Layout.ofShape s).dataWords = (Layout.ofShape s).dataWords + s.headerGap := by
  have h := le_alignUp (show 0 < PayloadHeader.alignment by decide) (Layout.ofShape s).dataWords
  unfold headerGap
  omega

theorem headerGap_lt (s : Shape) : s.headerGap < PayloadHeader.alignment := by
  have hpos : 0 < PayloadHeader.alignment := by decide
  have h := alignUp_lt hpos (Layout.ofShape s).dataWords
  unfold headerGap
  omega

end Shape

namespace Contents

/-- The same sections with other data. -/
def withData (c : Contents) (data : Bytes) (h : data.length = c.data.length) : Contents :=
  { c with data := data, data_mod := by rw [h]; exact c.data_mod }

variable {c : Contents} {m : Message}

theorem shape_withData {data : Bytes} (h : data.length = c.data.length) : (c.withData data h).shape = c.shape := by
  unfold withData shape
  simp only [h]

theorem upToData_withData {data : Bytes} (h : data.length = c.data.length) :
    (c.withData data h).upToData = c.upToData := by
  unfold upToData upToExchBuffers upToRecvBuffers upToSendBuffers upToSendStatics upToMoveHandles upToCopyHandles
  rw [shape_withData]
  rfl

/-- **Writing into the data words** changes the data at that place, and no other section. -/
theorem bytes_write_data {rest new : Bytes} {k : Nat} (h : m.bytes = c.bytes ++ rest)
    (hk : k + new.length ≤ c.data.length) :
    (m.write ((Layout.ofShape c.shape).dataWords + k) new).bytes =
      (c.withData (c.data.overlay k new) (Bytes.length_overlay _ _ _)).bytes ++ rest := by
  have hcut : m.bytes = c.upToData ++ c.data ++ (c.recvList.flatMap RecvEntry.encode ++ rest) := by
    rw [h, bytes, upToRecvList, List.append_assoc]
  rw [Message.bytes_write, Bytes.overlay_inside hcut (by rw [length_upToData]) hk]
  unfold bytes upToRecvList
  rw [upToData_withData, ← List.append_assoc]
  rfl

/-- **Writing a command header and what follows it** into the data words. -/
theorem bytes_write_payload {rest following : Bytes} {k : Nat} (h : m.bytes = c.bytes ++ rest) (hdr : PayloadHeader)
    (hk : k + PayloadHeader.width + following.length ≤ c.data.length) :
    ((m.write ((Layout.ofShape c.shape).dataWords + k) hdr.encode).write
      ((Layout.ofShape c.shape).dataWords + k + PayloadHeader.width) following).bytes =
      (c.withData ((c.data.overlay k hdr.encode).overlay (k + PayloadHeader.width) following)
        (by rw [Bytes.length_overlay, Bytes.length_overlay])).bytes ++ rest := by
  have hhdr := hdr.length_encode
  have hfirst := bytes_write_data h (show k + hdr.encode.length ≤ _ by omega)
  have hsecond := bytes_write_data hfirst (show k + PayloadHeader.width + following.length ≤ (Bytes.overlay _ _ _).length
    by rw [Bytes.length_overlay]; exact hk)
  rw [shape_withData, ← Nat.add_assoc] at hsecond
  exact hsecond

theorem headerStart_view {front : Bytes} (hf : front.length = c.shape.headerGap) :
    (c.view m).headerStart = (Layout.ofShape c.shape).dataWords + front.length := by
  rw [hf]
  exact c.shape.alignUp_eq_add_headerGap

/-- The data words end where the bytes behind the command header end. -/
theorem dataStop_eq {front rest : Bytes} {hdr : PayloadHeader} (hd : c.data = front ++ hdr.encode ++ rest)
    (hf : front.length = c.shape.headerGap) :
    (c.view m).dataStop = (c.view m).headerStart + PayloadHeader.width + rest.length := by
  rw [headerStart_view hf, dataStop_view, hd]
  simp only [List.length_append, PayloadHeader.length_encode, Nat.add_assoc]

theorem window_headerStart {front rest : Bytes} {hdr : PayloadHeader} (h : c.Shown m)
    (hd : c.data = front ++ hdr.encode ++ rest) (hf : front.length = c.shape.headerGap) :
    m.window (c.view m).headerStart PayloadHeader.width = hdr.encode := by
  have hlen : c.data.length = front.length + PayloadHeader.width + rest.length := by
    rw [hd, List.length_append, List.length_append, PayloadHeader.length_encode]
  rw [headerStart_view hf, window_data h (by omega)]
  exact Bytes.window_middle hd rfl rfl

/-- **The payload of a message** whose data words hold a command header at the aligned place: the header and all that
stands behind it, if that is as much as is asked for. -/
theorem payload?_view {front rest : Bytes} {hdr : PayloadHeader} {dataSize : Nat} (h : c.Shown m)
    (hd : c.data = front ++ hdr.encode ++ rest)
    (hf : front.length = c.shape.headerGap) (hs : dataSize ≤ rest.length) :
    (c.view m).payload? dataSize = some (hdr, rest) := by
  have hlen : c.data.length = front.length + PayloadHeader.width + rest.length := by
    rw [hd, List.length_append, List.length_append, PayloadHeader.length_encode]
  have hrest : m.window ((c.view m).headerStart + PayloadHeader.width) rest.length = rest := by
    rw [headerStart_view hf, Nat.add_assoc, window_data h (by omega)]
    exact Bytes.window_middle (c := []) (by rw [hd, List.append_nil]) (by rw [List.length_append]; rfl) rfl
  unfold View.payload?
  rw [dataStop_eq hd hf]
  dsimp only
  rw [if_pos (by omega), Nat.add_sub_cancel_left]
  show some (PayloadHeader.decode (m.window _ _), m.window _ _) = _
  rw [window_headerStart h hd hf, PayloadHeader.decode_encode, hrest]

end Contents
end HorizonIpc
