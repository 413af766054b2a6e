import HorizonIpc.Proofs.Frame.Entry
import HorizonIpc.Proofs.Frame.Sections
import HorizonIpc.Proofs.Frame.Shape
/-!
# Proofs.Frame.Framing — a started message is read as it was started

A shape that can be announced and fits a message is read back from it, whatever stands behind the headers, and every
accessor returns exactly the entries that stand in its section (`start_read_back`).
-/
namespace HorizonIpc

/-- **What the headers can announce**: fifteen entries of each kind, thirteen explicit receive list entries, and 1023
data words. -/
structure Shape.Announceable (s : Shape) : Prop where
  counts : ∀ n ∈ [s.sendStatics, s.sendBuffers, s.recvBuffers, s.exchBuffers, s.copyHandles, s.moveHandles], n ≤ 15
  recvMode : ∀ n, s.recvMode = some (.explicit n) → 1 ≤ n ∧ n ≤ 13
  dataWords : s.dataWords ≤ 0x3FF

theorem Shape.validate_iff_announceable (s : Shape) : s.validate = .ok () ↔ s.Announceable := by
  have hmode : recvModeFits s.recvMode = true ↔ ∀ n, s.recvMode = some (.explicit n) → 1 ≤ n ∧ n ≤ 13 := by
    rcases s.recvMode with _ | _ | n
    · simp [recvModeFits]
    · simp [recvModeFits]
    · simp only [recvModeFits, Bool.and_eq_true, decide_eq_true_eq, Option.some.injEq, RecvMode.explicit.injEq,
        forall_eq']
      unfold maxCount
      omega
  rw [validate_eq_ok_iff, hmode]
  constructor
  · rintro ⟨hcounts, hm, hd⟩
    exact ⟨by simpa [maxCount] using hcounts, hm, hd⟩
  · rintro ⟨hcounts, hm, hd⟩
    exact ⟨by simpa [maxCount] using hcounts, hm, hd⟩

/-- **What headers announce can be announced**: no field holds more. -/
theorem Shape.announceable_ofHeaders (h : Header) (special : SpecialHeader) : (ofHeaders h special).Announceable := by
  have four : ∀ b : BitVec 4, b.toNat ≤ 15 := fun b => Nat.le_of_lt_succ b.isLt
  have hcopy : (ofHeaders h special).copyHandles ≤ 15 := by
    show (if h.hasSpecial then special.copyHandles.toNat else 0) ≤ 15
    split
    · exact four _
    · exact Nat.zero_le _
  have hmove : (ofHeaders h special).moveHandles ≤ 15 := by
    show (if h.hasSpecial then special.moveHandles.toNat else 0) ≤ 15
    split
    · exact four _
    · exact Nat.zero_le _
  have hwords : h.dataWords.toNat ≤ 0x3FF := Nat.le_of_lt_succ h.dataWords.isLt
  refine ⟨?_, ?_, hwords⟩
  · simp only [List.forall_mem_cons, List.not_mem_nil, false_implies, implies_true, and_true]
    exact ⟨four _, four _, four _, four _, hcopy, hmove⟩
  · intro n hn
    change RecvMode.ofField? h.recvListMode.toNat = _ at hn
    have hmode := four h.recvListMode
    unfold RecvMode.ofField? at hn
    split at hn
    · cases hn
    · cases hn
    · cases hn
    · cases hn
      omega

/-- **What the accessors of a view return**: exactly the entries that stand in the sections. -/
structure View.Reads (v : View) : Prop where
  isSome_pid : v.pid.isSome = v.shape.sendPid
  pid : ∀ p, v.pid = some p ↔ v.shape.sendPid = true ∧ v.message.Lists 12 Bytes.codec64 1 [p]
  copyHandles : ∀ xs, v.copyHandles = xs ↔
    v.message.Lists v.layout.copyHandles Bytes.codec32 v.shape.copyHandles xs
  moveHandles : ∀ xs, v.moveHandles = xs ↔
    v.message.Lists v.layout.moveHandles Bytes.codec32 v.shape.moveHandles xs
  sendStatics : ∀ xs, v.sendStatics = xs ↔
    v.message.Lists v.layout.sendStatics StaticDescriptor.codec v.shape.sendStatics xs
  sendBuffers : ∀ xs, v.sendBuffers = xs ↔
    v.message.Lists v.layout.sendBuffers BufferDescriptor.codec v.shape.sendBuffers xs
  recvBuffers : ∀ xs, v.recvBuffers = xs ↔
    v.message.Lists v.layout.recvBuffers BufferDescriptor.codec v.shape.recvBuffers xs
  recvList : ∀ xs, v.recvList = xs ↔ v.message.Lists v.layout.recvList RecvEntry.codec v.shape.recvCount xs
  dataWords : ∀ bs, v.dataWords = bs ↔
    bs.length = v.shape.dataWords * 4 ∧ bs <+: v.message.bytes.drop v.layout.dataWords

theorem Bytes.window_eq_iff {bs new : Bytes} {start len : Nat} (h : start + len ≤ bs.length) :
    window bs start len = new ↔ new.length = len ∧ new <+: bs.drop start := by
  constructor
  · rintro rfl
    exact ⟨length_window h, List.take_prefix _ _⟩
  · rintro ⟨rfl, hpre⟩
    exact (List.prefix_iff_eq_take.1 hpre).symm

theorem View.reads_of_fits {m : Message} {s : Shape} (hfit : s.total ≤ Message.size) :
    (View.mk m s (.ofShape s)).Reads := by
  have h := Layout.consecutive_ofShape s
  have hstop := Layout.stop_ofShape s
  obtain ⟨hcopy, hmove, hstatics, hsend, hrecv, -, hwords, hlist⟩ := h.ends_le (Nat.le_trans (Nat.le_of_eq hstop) hfit)
  -- an announced process id needs the special header, so its slot is always at 12
  have hpid : (View.mk m s (.ofShape s)).pid = if s.sendPid then some (Bytes.toUInt64 (m.window 12 8)) else none := by
    unfold View.pid
    rw [h.pid]
    cases hp : s.sendPid with
    | true => simp [Shape.needsSpecial, hp, Frame.sectionsStart, Header.width, SpecialHeader.width, Layout.pidWidth]
    | false => rfl
  exact {
    isSome_pid := by
      rw [hpid]
      cases s.sendPid <;> rfl
    pid := fun p => by
      have hone : (m.entries 12 8 1).map Bytes.toUInt64 = [p] ↔ m.Lists 12 Bytes.codec64 1 [p] :=
        Message.map_decode_entries_eq_iff Bytes.codec64 (by decide)
      rw [hpid, ← hone]
      cases s.sendPid with
      | true => simp [Message.entries]
      | false => simp
    copyHandles := fun xs => Message.map_decode_entries_eq_iff Bytes.codec32 hcopy
    moveHandles := fun xs => Message.map_decode_entries_eq_iff Bytes.codec32 hmove
    sendStatics := fun xs => Message.map_decode_entries_eq_iff StaticDescriptor.codec hstatics
    sendBuffers := fun xs => Message.map_decode_entries_eq_iff BufferDescriptor.codec hsend
    recvBuffers := fun xs => Message.map_decode_entries_eq_iff BufferDescriptor.codec hrecv
    recvList := fun xs => Message.map_decode_entries_eq_iff RecvEntry.codec hlist
    dataWords := fun bs => Bytes.window_eq_iff (by rw [m.size_eq]; exact hwords) }

namespace Frame

theorem start_on_iff {s : Shape} {m m' : Message} {l : Layout} :
    (start s).on m = (.ok l, m') ↔
      (s.Announceable ∧ s.total ≤ Message.size) ∧ l = .ofShape s ∧ m' = blank s := by
  constructor
  · intro h
    obtain ⟨hv, hf, hl, hm⟩ := start_ok h
    rw [Layout.stop_ofShape] at hf
    exact ⟨⟨s.validate_iff_announceable.1 hv, hf⟩, hl, hm⟩
  · rintro ⟨⟨hv, hf⟩, rfl, rfl⟩
    exact start_of_fits (s.validate_iff_announceable.2 hv) (by rw [Layout.stop_ofShape]; exact hf) m

/-- A shape that is refused leaves the message as it was. -/
theorem start_error {s : Shape} {m m' : Message} {e : LayoutError} (h : (start s).on m = (.error e, m')) : m' = m := by
  unfold start at h
  cases hv : s.validate with
  | error e => simp_all
  | ok u =>
    cases hl : Layout.ofShape? s with
    | error e => simp_all
    | ok l => simp [hv, hl, Except.map] at h

/-- **Starting a message and reading it back.**  A shape is accepted exactly if the headers can announce it and its
sections fit a message, and otherwise the message stays as it was.  The sections follow each other behind the headers.
Once started, the shape and the layout are read back whatever is written there, and each accessor returns exactly the
entries written in its section. -/
theorem start_read_back (s : Shape) (m : Message) :
    ((∃ l m', (start s).on m = (.ok l, m')) ↔ s.Announceable ∧ s.total ≤ Message.size) ∧
    (∀ e m', (start s).on m = (.error e, m') → m' = m) ∧
    ∀ l m', (start s).on m = (.ok l, m') → l.Consecutive (sectionsStart s.needsSpecial) s ∧ ∀ n : Message,
      n.bytes.take (sectionsStart s.needsSpecial) = m'.bytes.take (sectionsStart s.needsSpecial) →
      View.ofMessage n = .ok ⟨n, s, l⟩ ∧ (View.mk n s l).Reads := by
  refine ⟨?_, fun e m' => start_error, ?_⟩
  · constructor
    · rintro ⟨l, m', h⟩
      exact (start_on_iff.1 h).1
    · intro h
      exact ⟨_, _, start_on_iff.2 ⟨h, rfl, rfl⟩⟩
  · intro l m' h
    obtain ⟨⟨hv, hf⟩, rfl, rfl⟩ := start_on_iff.1 h
    refine ⟨Layout.consecutive_ofShape s, fun n hn => ?_⟩
    have hheaders : n.bytes.take (sectionsStart s.needsSpecial) = s.headers := by
      rw [hn, bytes_blank]
      exact List.take_left' s.length_headers
    have hcut : n.bytes = s.headers ++ n.bytes.drop (sectionsStart s.needsSpecial) := by
      rw [← hheaders, List.take_append_drop]
    have hstop : (Layout.ofShape s).stop ≤ Message.size := by
      rw [Layout.stop_ofShape]
      exact hf
    exact ⟨View.ofMessage_of_headers (s.validate_iff_announceable.2 hv) hcut hstop, View.reads_of_fits hf⟩

/-- A message with entries of every announced kind, into which a process id is stamped. -/
theorem start_read_back_stamped :
    let s : Shape := {
      messageType := 4, sendStatics := 1, sendBuffers := 2, recvBuffers := 1, dataWords := 8
      recvMode := some (.explicit 1), sendPid := true, copyHandles := 2, moveHandles := 1 }
    let run := (start s).on (.filled 0xEE)
    let stamped := run.2.write 12 (Bytes.ofUInt64 0x55)
    run = (.ok (.ofShape s), run.2) ∧ (Layout.ofShape s).Consecutive 12 s ∧
      View.ofMessage stamped = .ok ⟨stamped, s, .ofShape s⟩ ∧ (View.mk stamped s (.ofShape s)).pid = some 0x55 := by
  intro s run stamped
  have hrun : run = (.ok (.ofShape s), run.2) := Attempt.on_eq_ok (by decide +kernel)
  obtain ⟨hsections, hback⟩ := (start_read_back s (.filled 0xEE)).2.2 _ _ hrun
  obtain ⟨hview, hreads⟩ := hback stamped (by decide +kernel)
  exact ⟨hrun, hsections, hview, (hreads.pid 0x55).2 ⟨rfl, rfl, by decide +kernel⟩⟩

end Frame
end HorizonIpc
