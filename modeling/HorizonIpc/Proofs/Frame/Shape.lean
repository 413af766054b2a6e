import HorizonIpc.Frame.Layout
import HorizonIpc.Frame.View
import HorizonIpc.Proofs.Bytes.Splice
import HorizonIpc.Proofs.Frame.Codec
/-!
# Proofs.Frame.Shape — a shape is announced by its headers

A shape that passes `validate` is the one that its headers announce (`ofHeaders_header`), so a message that starts with
these headers is decoded to this shape and laid out in its layout (`ofMessage_of_headers`), whatever follows them.
`start_ok` says all that starting a message does.
-/
namespace HorizonIpc

theorem RecvMode.ofField?_toField {m : RecvMode} (h : Shape.recvModeFits (some m) = true) :
    RecvMode.ofField? (BitVec.ofNat 4 m.toField).toNat = some m := by
  cases m with
  | auto => rfl
  | explicit n =>
    have hn : 0 < n ∧ n ≤ Shape.maxCount - 2 := by
      simpa only [Shape.recvModeFits, Bool.and_eq_true, decide_eq_true_eq] using h
    unfold Shape.maxCount at hn
    have hfield : (BitVec.ofNat 4 (RecvMode.explicit n).toField).toNat = n - 1 + 3 := by
      rw [BitVec.toNat_ofNat]
      show (2 + n) % 2 ^ 4 = n - 1 + 3
      omega
    rw [hfield]
    show some (RecvMode.explicit (n - 1 + 1)) = _
    rw [Nat.sub_add_cancel hn.1]

namespace Shape

/-- **What a shape that passes the check keeps to**: fifteen entries a section, a receive list that can be announced,
and 1023 data words. -/
theorem validate_eq_ok_iff (s : Shape) :
    s.validate = .ok () ↔
      (s.sendStatics ≤ maxCount ∧ s.sendBuffers ≤ maxCount ∧ s.recvBuffers ≤ maxCount ∧ s.exchBuffers ≤ maxCount ∧
        s.copyHandles ≤ maxCount ∧ s.moveHandles ≤ maxCount) ∧
      recvModeFits s.recvMode = true ∧ s.dataWords ≤ maxDataWords := by
  have hcounts : s.counts.any (· > maxCount) = false ↔
      s.sendStatics ≤ maxCount ∧ s.sendBuffers ≤ maxCount ∧ s.recvBuffers ≤ maxCount ∧ s.exchBuffers ≤ maxCount ∧
        s.copyHandles ≤ maxCount ∧ s.moveHandles ≤ maxCount := by
    simp [counts]
  rw [← hcounts]
  unfold validate
  cases hc : s.counts.any (· > maxCount) with
  | true => simp
  | false =>
    cases hm : recvModeFits s.recvMode with
    | false => simp
    | true =>
      by_cases hd : s.dataWords > maxDataWords
      · simp [hd]
      · simp [hd]; omega

theorem needsSpecial_eq_false {s : Shape} (h : s.needsSpecial = false) :
    s.sendPid = false ∧ s.copyHandles = 0 ∧ s.moveHandles = 0 := by
  unfold needsSpecial at h
  simp only [Bool.or_eq_false_iff, decide_eq_false_iff_not, Nat.not_lt, Nat.le_zero] at h
  exact ⟨h.1.1, h.1.2, h.2⟩

/-- **The headers of a shape announce the shape**; where no special header is needed, it does not matter what stands in
its place. -/
theorem ofHeaders_header {s : Shape} (hv : s.validate = .ok ()) {special : SpecialHeader}
    (hs : s.needsSpecial = true → special = s.special) : ofHeaders s.header special = s := by
  obtain ⟨⟨h1, h2, h3, h4, h5, h6⟩, hm, hd⟩ := (validate_eq_ok_iff s).1 hv
  unfold maxCount at h1 h2 h3 h4 h5 h6
  unfold maxDataWords at hd
  have cut4 : ∀ n : Nat, n ≤ 0xF → (BitVec.ofNat 4 n).toNat = n := fun n hn => by rw [BitVec.toNat_ofNat]; omega
  have hwords : s.header.dataWords.toNat = s.dataWords := by
    show (BitVec.ofNat 10 s.dataWords).toNat = _
    rw [BitVec.toNat_ofNat]
    omega
  have hmode : RecvMode.ofField? s.header.recvListMode.toNat = s.recvMode := by
    unfold header
    cases hr : s.recvMode with
    | none => rfl
    | some m => exact RecvMode.ofField?_toField (by rw [← hr]; exact hm)
  have hflag : s.header.hasSpecial = s.needsSpecial := rfl
  have hstatics : s.header.sendStatics.toNat = s.sendStatics := cut4 _ h1
  have hsend : s.header.sendBuffers.toNat = s.sendBuffers := cut4 _ h2
  have hrecv : s.header.recvBuffers.toNat = s.recvBuffers := cut4 _ h3
  have hexch : s.header.exchBuffers.toNat = s.exchBuffers := cut4 _ h4
  unfold ofHeaders
  rw [hflag, hstatics, hsend, hrecv, hexch, hwords, hmode]
  cases hn : s.needsSpecial with
  | true =>
    have hcopy : s.special.copyHandles.toNat = s.copyHandles := cut4 _ h5
    have hmove : s.special.moveHandles.toNat = s.moveHandles := cut4 _ h6
    rw [hs hn, if_pos rfl, if_pos rfl, hcopy, hmove, Bool.true_and]
    rfl
  | false =>
    obtain ⟨hpid, hcopy, hmove⟩ := needsSpecial_eq_false hn
    rw [Bool.false_and, if_neg Bool.false_ne_true, if_neg Bool.false_ne_true]
    cases s
    simp only at hpid hcopy hmove
    subst hpid hcopy hmove
    rfl

/-- The bytes in front of the sections: the header, and the special header where it is needed. -/
def headers (s : Shape) : Bytes := s.header.encode ++ if s.needsSpecial then s.special.encode else []

theorem length_headers (s : Shape) :
    s.headers.length = Header.width + if s.needsSpecial then SpecialHeader.width else 0 := by
  unfold headers
  rw [List.length_append, Header.length_encode]
  cases s.needsSpecial with
  | true => rw [if_pos rfl, if_pos rfl, SpecialHeader.length_encode]
  | false => rfl

end Shape

namespace View

/-- **A message that starts with the headers of a shape is a message of that shape.** -/
theorem ofMessage_of_headers {m : Message} {s : Shape} {rest : Bytes} (hv : s.validate = .ok ())
    (hm : m.bytes = s.headers ++ rest) (hfit : (Layout.ofShape s).stop ≤ Message.size) :
    ofMessage m = .ok ⟨m, s, Layout.ofShape s⟩ := by
  have hheader : Frame.headerOf m = s.header := by
    have hw : m.bytes.window 0 Header.width = s.header.encode := by
      refine Bytes.window_middle (a := []) (c := (if s.needsSpecial then s.special.encode else []) ++ rest) ?_ rfl
        (Header.length_encode _).symm
      rw [hm, Shape.headers, List.nil_append, List.append_assoc]
    unfold Frame.headerOf Message.window
    rw [hw, Header.decode_encode]
  have hspecial : s.needsSpecial = true → Frame.specialOf m = s.special := by
    intro hn
    have hw : m.bytes.window Header.width SpecialHeader.width = s.special.encode := by
      refine Bytes.window_middle (a := s.header.encode) (c := rest) ?_ (Header.length_encode _).symm
        (SpecialHeader.length_encode _).symm
      rw [hm, Shape.headers, if_pos hn]
    unfold Frame.specialOf Message.window
    rw [hw, SpecialHeader.decode_encode]
  have hlay : Layout.ofShape? s = .ok (Layout.ofShape s) := by
    unfold Layout.ofShape?
    rw [if_neg (by omega)]
  unfold ofMessage
  rw [hheader, Shape.ofHeaders_header hv hspecial]
  show (Layout.ofShape? s).map _ = _
  rw [hlay]
  rfl

end View

namespace Frame

open Bytes (zeros)

theorem bytes_blank (s : Shape) : (blank s).bytes = s.headers ++ zeros (256 - s.headers.length) := by
  have hzero : Message.zero.bytes = [] ++ zeros 256 := rfl
  have hlen := Header.length_encode s.header
  have hfirst : (Message.zero.write 0 s.header.encode).bytes = s.header.encode ++ zeros 248 := by
    have hstart : 0 = ([] : Bytes).length := rfl
    rw [Message.bytes_write, Bytes.overlay_behind hzero hstart (by rw [hlen]; decide), hlen]
    rfl
  have hl := Shape.length_headers s
  unfold blank
  cases hn : s.needsSpecial with
  | true =>
    have hsp := SpecialHeader.length_encode s.special
    rw [if_pos rfl, Message.bytes_write, Bytes.overlay_behind hfirst hlen.symm (by rw [hsp]; decide), hsp, hl,
      Shape.headers, hn]
    rfl
  | false =>
    rw [if_neg (by decide), hfirst, hl, Shape.headers, hn]
    simp only [Bool.false_eq_true, if_false, List.append_nil]
    rfl

/-- **What starting a message does**: a shape that can be announced and fits a message clears it, writes the headers and
answers the layout, and any other shape leaves the message as it was. -/
theorem start_ok {s : Shape} {m m' : Message} {l : Layout} (h : (start s).on m = (.ok l, m')) :
    s.validate = .ok () ∧ (Layout.ofShape s).stop ≤ Message.size ∧ l = Layout.ofShape s ∧ m' = blank s := by
  unfold start at h
  cases hv : s.validate with
  | error e => simp [hv] at h
  | ok u =>
    unfold Layout.ofShape? at h
    by_cases hf : (Layout.ofShape s).stop > Message.size
    · simp [hv, hf] at h
    · simp only [hv, hf, if_false, Attempt.on_bind, Attempt.on_ofExcept, Attempt.on_set, Attempt.on_pure,
        Prod.mk.injEq, Except.ok.injEq] at h
      exact ⟨rfl, by omega, h.1.symm, h.2.symm⟩

theorem start_of_fits {s : Shape} (hv : s.validate = .ok ()) (hf : (Layout.ofShape s).stop ≤ Message.size)
    (m : Message) : (start s).on m = (.ok (Layout.ofShape s), blank s) := by
  unfold start Layout.ofShape?
  rw [hv, if_neg (by omega)]
  rfl

end Frame
end HorizonIpc
