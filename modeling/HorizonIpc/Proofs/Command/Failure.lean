import HorizonIpc.Proofs.Command.Reply
import HorizonIpc.Proofs.Frame.Sections
/-!
# Proofs.Command.Failure — when a service's failure reaches the client

A message reports a status if its framing is accepted and a whole response header stands at the aligned place of its
data words.  A failure that is reported reaches the client as the service's error if the client expects no more data
than the data words have room for; one that expects more is told that the reply is truncated (`failure_reported`).
-/
namespace HorizonIpc

/-- How many bytes the data words have room for behind the command header. -/
def View.room (v : View) : Nat := v.dataStop - (v.headerStart + PayloadHeader.width)

/-- **A message reports a status**: it is framed as the view says, its data words hold a whole command header at the
first aligned place, and the header carries the mark of a response and the status. -/
structure Message.Reports (m : Message) (v : View) (status : UInt32) : Prop where
  framed : View.ofMessage m = .ok v
  complete : v.headerStart + PayloadHeader.width ≤ v.dataStop
  magic : m.word v.headerStart = PayloadHeader.responseMagic
  status : m.word (v.headerStart + 8) = status

namespace PayloadHeader

theorem magic_decode_window (m : Message) (start : Nat) : (decode (m.window start width)).magic = m.word start := by
  unfold decode Message.word Message.window Bytes.toUInt32 Bytes.window width
  simp only [List.take_take]
  rfl

theorem subject_decode_window (m : Message) (start : Nat) :
    (decode (m.window start width)).subject = m.word (start + 8) := by
  unfold decode Message.word Message.window Bytes.toUInt32 Bytes.window width
  simp only [List.drop_take, List.drop_drop, List.take_take]
  rfl

end PayloadHeader

namespace Message.Reports

variable {m : Message} {v : View} {status : UInt32}

theorem message_eq (h : m.Reports v status) : v.message = m := by
  obtain ⟨-, rfl⟩ := View.ofMessage_eq_ok_iff.1 h.framed
  rfl

theorem room_iff (h : m.Reports v status) (n : Nat) :
    v.headerStart + PayloadHeader.width + n ≤ v.dataStop ↔ n ≤ v.room := by
  have hcomplete := h.complete
  unfold View.room
  omega

theorem ofMessage_truncated (h : m.Reports v status) {n : Nat} (hn : v.room < n) :
    Response.ofMessage m n = .error .truncated := by
  unfold Response.ofMessage
  rw [h.framed, Attempt.mapError_ok]
  -- the room is compared before the header is looked at
  simp only [bind, Except.bind, View.payload?, h.room_iff, Nat.not_le.2 hn, if_false]
  rfl

/-- **A message that reports a status, and has room for the data expected**, comes to what the status stands for. -/
theorem ofMessage_eq (h : m.Reports v status) {n : Nat} (hn : n ≤ v.room) :
    Response.ofMessage m n = match ErrorCode.ofWord? status with
      | some e => .error (.service e)
      | none => .ok ⟨(m.window (v.headerStart + PayloadHeader.width)
          (v.dataStop - (v.headerStart + PayloadHeader.width))).take n, v.copyHandles, v.moveHandles, v.sendStatics⟩ := by
  have hmagic : (PayloadHeader.decode (m.window v.headerStart PayloadHeader.width)).magic =
      PayloadHeader.responseMagic := (PayloadHeader.magic_decode_window m _).trans h.magic
  have hstatus : (PayloadHeader.decode (m.window v.headerStart PayloadHeader.width)).subject = status :=
    (PayloadHeader.subject_decode_window m _).trans h.status
  unfold Response.ofMessage
  rw [h.framed, Attempt.mapError_ok]
  simp only [bind, Except.bind, View.payload?, h.message_eq, h.room_iff, hn, if_true, hmagic, hstatus, ne_eq,
    not_true_eq_false, if_false]
  cases ErrorCode.ofWord? status <;> rfl

theorem ofMessage_failure {e : ErrorCode} (h : m.Reports v e.word) {n : Nat} (hn : n ≤ v.room) :
    Response.ofMessage m n = .error (.service e) := by
  rw [h.ofMessage_eq hn, ErrorCode.ofWord?_eq_some_iff.2 rfl]

theorem ofMessage_success (h : m.Reports v 0) {n : Nat} (hn : n ≤ v.room) :
    ∃ a, Response.ofMessage m n = .ok a ∧ a.sendStatics = v.sendStatics := by
  rw [h.ofMessage_eq hn, ErrorCode.ofWord?_zero]
  exact ⟨_, rfl, rfl⟩

/-- A message reports one status at most. -/
theorem unique (h : m.Reports v status) {v' : View} {status' : UInt32} (h' : m.Reports v' status') :
    v = v' ∧ status = status' := by
  obtain rfl := Except.ok.inj (h.framed.symm.trans h'.framed)
  exact ⟨rfl, h.status.symm.trans h'.status⟩

end Message.Reports

/-- **A message that reports no status** breaks the protocol, whatever data is expected. -/
theorem Response.ofMessage_unreported {m : Message} (h : ¬ ∃ v status, m.Reports v status) (n : Nat) :
    ∃ e, ofMessage m n = .error e ∧ e.isViolation = true := by
  unfold ofMessage
  cases hv : View.ofMessage m with
  | error e => exact ⟨_, rfl, rfl⟩
  | ok v =>
    have hm : v.message = m := by
      obtain ⟨-, rfl⟩ := View.ofMessage_eq_ok_iff.1 hv
      rfl
    simp only [Attempt.mapError_ok, bind, Except.bind, View.payload?, hm]
    by_cases hroom : v.headerStart + PayloadHeader.width + n ≤ v.dataStop
    · -- there is a whole header, so it is its mark that is not a response's
      have hmagic : m.word v.headerStart ≠ PayloadHeader.responseMagic := fun hmagic =>
        h ⟨v, m.word (v.headerStart + 8), hv, by omega, hmagic, rfl⟩
      rw [← PayloadHeader.magic_decode_window] at hmagic
      simp only [hroom, if_true, hmagic, ne_eq, not_false_eq_true]
      exact ⟨_, rfl, rfl⟩
    · simp only [hroom, if_false]
      exact ⟨_, rfl, rfl⟩

/-- **A written reply reports its status**, and has room for its data and for the zeros behind. -/
theorem Reply.reports_write {r : Reply} {m m' : Message} (h : r.write.on m = (.ok (), m')) :
    ∃ v, m'.Reports v r.status ∧ v.room = r.data.length + r.slack := by
  obtain ⟨data, hd, hv, hshown, hdata⟩ := shown_write h
  generalize r.contents.withData data hd = c at hv hshown hdata
  have hfront := Bytes.length_zeros c.shape.headerGap
  have hheader := Contents.window_headerStart hshown hdata hfront
  have hstop : (c.view m').dataStop = _ := Contents.dataStop_eq hdata hfront
  rw [List.length_append, Bytes.length_zeros] at hstop
  refine ⟨c.view m', ?_, ?_⟩
  · exact {
      framed := Contents.ofMessage_of_shown hv hshown
      complete := by omega
      magic := by rw [← PayloadHeader.magic_decode_window, hheader, PayloadHeader.decode_encode]; rfl
      status := by rw [← PayloadHeader.subject_decode_window, hheader, PayloadHeader.decode_encode]; rfl }
  · unfold View.room
    omega

namespace Response

/-- **A failure that is reported reaches the client exactly if the data that it expects would have room.**  A client that
expects more is told that the reply is truncated, whatever status it reports; every written reply has room for its own
data at least. -/
theorem failure_reported (e : ErrorCode) :
    (∀ m v, m.Reports v e.word → ∀ n,
      (n ≤ v.room → ofMessage m n = .error (.service e)) ∧ (v.room < n → ofMessage m n = .error .truncated)) ∧
    (∀ (r : Reply) (m m' : Message), r.write.on m = (.ok (), m') → r.status = e.word →
      ∃ v, m'.Reports v e.word ∧ r.data.length ≤ v.room) ∧
    ReplyError.isViolation (.service e) = false ∧ Coded.status (ReplyError.service e) = e.word := by
  refine ⟨fun m v h n => ⟨h.ofMessage_failure, h.ofMessage_truncated⟩, ?_, rfl, rfl⟩
  intro r m m' h hs
  obtain ⟨v, hv, hroom⟩ := Reply.reports_write h
  rw [hs] at hv
  exact ⟨v, hv, by omega⟩

/-- A failure without data, and a client that expects 64 bytes: the status is masked by a broken protocol. -/
theorem failure_masked :
    let refusal : Reply := { status := 0x1234 }
    let m := (refusal.write.on .zero).2
    refusal.write.on .zero = (.ok (), m) ∧ (∃ v, m.Reports v 0x1234) ∧ ofMessage m 64 = .error .truncated ∧
      ReplyError.isViolation .truncated = true ∧ Coded.status ReplyError.truncated ≠ 0x1234 := by
  intro refusal m
  have hm : refusal.write.on .zero = (.ok (), m) := Attempt.on_eq_ok (by decide +kernel)
  obtain ⟨v, hv, hroom⟩ := Reply.reports_write hm
  have hslack : refusal.data.length + refusal.slack < 64 := by decide +kernel
  exact ⟨hm, ⟨v, hv⟩, hv.ofMessage_truncated (by rw [hroom]; exact hslack), rfl, by decide +kernel⟩

end Response
end HorizonIpc
