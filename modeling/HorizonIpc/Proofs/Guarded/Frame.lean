import HorizonIpc.Proofs.Frame.Framing
import HorizonIpc.Proofs.Guarded.Basic
/-!
# Proofs.Guarded.Frame — no message leads outside itself

Every count of a message comes from a field of at most ten bits, so the offsets of its sections cannot grow too large
for a word (`ofShape_eq`).  A message whose sections end inside it can then be looked into
everywhere (`Contained.accessible`), and any other message is refused before anything is read from its sections
(`view_eq`).  Starting a message writes its headers without a fault too (`start_eq`).
-/
namespace HorizonIpc
namespace Guarded

/-! ## the guarded definitions -/

def ofShape (s : Shape) : Option (Except LayoutError Layout) := do
  let special ← past s.needsSpecial Header.width SpecialHeader.width
  let copyHandles ← past s.sendPid special Layout.pidWidth
  let moveHandles ← behind copyHandles s.copyHandles Layout.handleWidth
  let sendStatics ← behind moveHandles s.moveHandles Layout.handleWidth
  let sendBuffers ← behind sendStatics s.sendStatics StaticDescriptor.width
  let recvBuffers ← behind sendBuffers s.sendBuffers BufferDescriptor.width
  let exchBuffers ← behind recvBuffers s.recvBuffers BufferDescriptor.width
  let dataWords ← behind exchBuffers s.exchBuffers BufferDescriptor.width
  let recvList ← behind dataWords s.dataWords Layout.wordWidth
  let stop ← behind recvList s.recvCount RecvEntry.width
  if stop > Message.size then return .error .outOfBounds
  return .ok {
    pid := if s.sendPid then some special else none
    copyHandles, moveHandles, sendStatics, sendBuffers, recvBuffers, exchBuffers, dataWords, recvList, stop }

def pid (v : View) : Option (Option UInt64) :=
  v.layout.pid.mapM fun start => Bytes.toUInt64 <$> read v.message start Layout.pidWidth

def copyHandles (v : View) : Option (List UInt32) :=
  List.map Bytes.toUInt32 <$> table v.message v.layout.copyHandles Layout.handleWidth v.shape.copyHandles

def moveHandles (v : View) : Option (List UInt32) :=
  List.map Bytes.toUInt32 <$> table v.message v.layout.moveHandles Layout.handleWidth v.shape.moveHandles

def sendStatics (v : View) : Option (List StaticDescriptor) :=
  List.map .decode <$> table v.message v.layout.sendStatics StaticDescriptor.width v.shape.sendStatics

def sendBuffers (v : View) : Option (List BufferDescriptor) :=
  List.map .decode <$> table v.message v.layout.sendBuffers BufferDescriptor.width v.shape.sendBuffers

def recvBuffers (v : View) : Option (List BufferDescriptor) :=
  List.map .decode <$> table v.message v.layout.recvBuffers BufferDescriptor.width v.shape.recvBuffers

def recvList (v : View) : Option (List RecvEntry) :=
  List.map .decode <$> table v.message v.layout.recvList RecvEntry.width v.shape.recvCount

def dataWords (v : View) : Option Bytes := do
  slice v.message.bytes v.layout.dataWords (← behind v.layout.dataWords v.shape.dataWords Layout.wordWidth)

/-- The special header, which is read only where the header announces it. -/
def special (m : Message) (h : Header) : Option SpecialHeader :=
  if h.hasSpecial then SpecialHeader.decode <$> read m Header.width SpecialHeader.width else some ⟨false, 0, 0⟩

/-- The view of a message.  The process id is read as soon as the sections are laid out. -/
def view (m : Message) : Option (Except LayoutError View) := do
  let header ← Header.decode <$> read m 0 Header.width
  let shape := Shape.ofHeaders header (← special m header)
  match ← ofShape shape with
  | .error e => return .error e
  | .ok layout =>
    let _ ← pid ⟨m, shape, layout⟩
    return .ok ⟨m, shape, layout⟩

/-- Starts a message of the given shape.  A count that is too large for its field is a fault. -/
def start (s : Shape) (m : Message) : Option (Except LayoutError Layout × Message) := do
  match s.validate with
  | .error e => return (.error e, m)
  | .ok () =>
    match ← ofShape s with
    | .error e => return (.error e, m)
    | .ok layout =>
      let mode := (s.recvMode.map RecvMode.toField).getD 0
      let header ← Header.ofValues? s.messageType.toNat s.sendStatics s.sendBuffers s.recvBuffers s.exchBuffers
        s.dataWords mode 0 s.needsSpecial
      let m ← put .zero 0 header.encode
      if s.needsSpecial then
        let special ← SpecialHeader.ofValues? s.sendPid s.copyHandles s.moveHandles
        return (.ok layout, ← put m Header.width special.encode)
      return (.ok layout, m)

/-! ## laying out -/

theorem counts_le {s : Shape} (h : s.Announceable) :
    s.sendStatics ≤ 15 ∧ s.sendBuffers ≤ 15 ∧ s.recvBuffers ≤ 15 ∧ s.exchBuffers ≤ 15 ∧ s.copyHandles ≤ 15 ∧
      s.moveHandles ≤ 15 := by
  simpa only [List.forall_mem_cons, List.not_mem_nil, false_implies, implies_true, and_true] using h.counts

theorem recvCount_le {s : Shape} (h : s.Announceable) : s.recvCount ≤ 13 := by
  have hmode := h.recvMode
  unfold Shape.recvCount
  match hr : s.recvMode with
  | none => exact Nat.zero_le _
  | some .auto => exact (by decide : 1 ≤ 13)
  | some (.explicit n) => exact (hmode n hr).2

theorem behind_section {start count width next : Nat} (h : next = start + count * width) (hn : next < wordLimit) :
    behind start count width = some next := by
  rw [h] at hn ⊢
  exact behind_eq hn

/-- **The offsets of an announced shape are small numbers**, so laying it out meets no fault. -/
theorem ofShape_eq {s : Shape} (h : s.Announceable) : ofShape s = some (Layout.ofShape? s) := by
  have hlimit : 8192 < wordLimit := by decide
  obtain ⟨h1, h2, h3, h4, h5, h6⟩ := counts_le h
  have hwords := h.dataWords
  have hlist := recvCount_le h
  have hspecial : past s.needsSpecial Header.width SpecialHeader.width = some (Frame.sectionsStart s.needsSpecial) :=
    past_eq (by decide)
  have hfirst : Frame.sectionsStart s.needsSpecial ≤ 12 := by
    cases s.needsSpecial <;> decide
  have hpidWidth : (if s.sendPid then 8 else 0) ≤ 8 := by
    cases s.sendPid <;> decide
  obtain ⟨hpid, e0, e1, e2, e3, e4, e5, e6, e7, e8⟩ := Layout.consecutive_ofShape s
  unfold Layout.ofShape?
  generalize Layout.ofShape s = l at hpid e0 e1 e2 e3 e4 e5 e6 e7 e8 ⊢
  have hcopy : past s.sendPid (Frame.sectionsStart s.needsSpecial) Layout.pidWidth = some l.copyHandles := by
    rw [e0]
    exact past_eq (show _ + 8 < _ by omega)
  -- each section starts where the one before it ends
  have hmove := behind_section e1 (by omega)
  have hstatics := behind_section e2 (by omega)
  have hsend := behind_section e3 (by omega)
  have hrecv := behind_section e4 (by omega)
  have hexch := behind_section e5 (by omega)
  have hdata := behind_section e6 (by omega)
  have hrecvList := behind_section e7 (by omega)
  have hstop := behind_section e8 (by omega)
  unfold ofShape
  simp only [hspecial, hcopy, Option.bind_eq_bind, Option.bind_some, Layout.handleWidth, hmove, StaticDescriptor.width,
    hstatics, BufferDescriptor.width, hsend, hrecv, hexch, hdata, Layout.wordWidth, hrecvList, RecvEntry.width, hstop,
    ← hpid]
  split
  · rfl
  · rfl

/-! ## looking into a message -/

/-- **The sections of a view lie in its message**: behind the header, one behind the other, and in front of the end. -/
def Contained (v : View) : Prop := ∃ start, 8 ≤ start ∧ v.layout.Consecutive start v.shape ∧ v.layout.stop ≤ 256

/-- **No accessor of a view meets a fault.** -/
structure Accessible (v : View) : Prop where
  pid : pid v = some v.pid
  copyHandles : copyHandles v = some v.copyHandles
  moveHandles : moveHandles v = some v.moveHandles
  sendStatics : sendStatics v = some v.sendStatics
  sendBuffers : sendBuffers v = some v.sendBuffers
  recvBuffers : recvBuffers v = some v.recvBuffers
  recvList : recvList v = some v.recvList
  dataWords : dataWords v = some v.dataWords

theorem Contained.accessible {v : View} (h : Contained v) : Accessible v := by
  obtain ⟨first, -, hl, hstop⟩ := h
  have hlimit : 256 < wordLimit := by decide
  have hcopies := hl.copyHandles
  obtain ⟨hcopy, hmove, hstatics, hsend, hrecv, -, hwords, hlist⟩ := hl.ends_le hstop
  exact {
    pid := by
      -- where there is a process id, it ends where the copy handles start
      unfold Guarded.pid View.pid
      rw [hl.pid]
      cases hp : v.shape.sendPid with
      | false => rfl
      | true =>
        rw [hp, if_pos rfl] at hcopies
        have hread : read v.message first Layout.pidWidth = some (v.message.window first Layout.pidWidth) :=
          read_eq (show first + 8 ≤ 256 by omega)
        show some <$> (Bytes.toUInt64 <$> read v.message first Layout.pidWidth) = _
        rw [hread]
        rfl
    copyHandles := congrArg (Option.map _) (table_eq hcopy)
    moveHandles := congrArg (Option.map _) (table_eq hmove)
    sendStatics := congrArg (Option.map _) (table_eq hstatics)
    sendBuffers := congrArg (Option.map _) (table_eq hsend)
    recvBuffers := congrArg (Option.map _) (table_eq hrecv)
    recvList := congrArg (Option.map _) (table_eq hlist)
    dataWords := by
      have hend : v.layout.dataWords + v.shape.dataWords * Layout.wordWidth ≤ v.message.bytes.length := by
        rw [v.message.size_eq]
        exact hwords
      have hbehind : behind v.layout.dataWords v.shape.dataWords Layout.wordWidth = some (_ + _) :=
        behind_eq (Nat.lt_of_le_of_lt hwords hlimit)
      unfold Guarded.dataWords
      rw [hbehind, Option.bind_eq_bind, Option.bind_some, slice_eq (Nat.le_add_right _ _) hend,
        Nat.add_sub_cancel_left]
      rfl }

theorem contained_of_view {m : Message} {v : View} (h : View.ofMessage m = .ok v) : Contained v := by
  obtain ⟨hfit, rfl⟩ := View.ofMessage_eq_ok_iff.1 h
  refine ⟨_, ?_, Layout.consecutive_ofShape _, ?_⟩
  · exact Nat.le_add_right 8 _
  · rw [Layout.stop_ofShape]
    exact hfit

theorem layoutError_of_view {m : Message} {e : LayoutError} (h : View.ofMessage m = .error e) : e = .outOfBounds := by
  unfold View.ofMessage Layout.ofShape? at h
  dsimp only at h
  split at h
  · cases h
    rfl
  · cases h

/-- **The special header is read inside the message**, and where it is not read it does not count. -/
theorem special_eq (m : Message) :
    ∃ h, special m (Frame.headerOf m) = some h ∧
      Shape.ofHeaders (Frame.headerOf m) h = Shape.ofHeaders (Frame.headerOf m) (Frame.specialOf m) := by
  have hread : read m Header.width SpecialHeader.width = some (m.window Header.width SpecialHeader.width) :=
    read_eq (by decide)
  unfold special Shape.ofHeaders
  cases (Frame.headerOf m).hasSpecial with
  | true => exact ⟨Frame.specialOf m, by rw [hread]; rfl, rfl⟩
  | false => exact ⟨⟨false, 0, 0⟩, rfl, rfl⟩

/-- **Looking into a message meets no fault**, whatever its bytes are. -/
theorem view_eq (m : Message) : view m = some (View.ofMessage m) := by
  have hheader : Header.decode <$> read m 0 Header.width = some (Frame.headerOf m) :=
    congrArg (Option.map Header.decode) (read_eq (by decide))
  obtain ⟨h, hspecial, hshape⟩ := special_eq m
  have hlay := ofShape_eq (Shape.announceable_ofHeaders (Frame.headerOf m) (Frame.specialOf m))
  rw [← hshape] at hlay
  unfold view
  simp only [hheader, hspecial, hlay, Option.bind_eq_bind, Option.bind_some]
  have hview : View.ofMessage m = (Layout.ofShape? (Shape.ofHeaders (Frame.headerOf m) h)).map fun layout =>
      ⟨m, Shape.ofHeaders (Frame.headerOf m) h, layout⟩ := by
    rw [hshape]
    rfl
  cases hr : Layout.ofShape? (Shape.ofHeaders (Frame.headerOf m) h) with
  | error e =>
    rw [hview, hr]
    rfl
  | ok layout =>
    rw [hr] at hview
    have hpid := (contained_of_view hview).accessible.pid
    simp only [hpid, Option.bind_some]
    rw [hview]
    rfl

/-! ## starting a message -/

theorem fit?_eq {size v : Nat} (h : v < 2 ^ size) : Bits.fit? size v = some (BitVec.ofNat size v) := by
  have hback : (BitVec.ofNat size v).toNat = v := by rw [BitVec.toNat_ofNat, Nat.mod_eq_of_lt h]
  exact if_pos hback

theorem header_eq {s : Shape} (h : s.Announceable) :
    Header.ofValues? s.messageType.toNat s.sendStatics s.sendBuffers s.recvBuffers s.exchBuffers s.dataWords
      ((s.recvMode.map RecvMode.toField).getD 0) 0 s.needsSpecial = some s.header := by
  obtain ⟨h1, h2, h3, h4, -⟩ := counts_le h
  have hwords := h.dataWords
  have hmode : (s.recvMode.map RecvMode.toField).getD 0 < 2 ^ 4 := by
    rcases hr : s.recvMode with _ | _ | n
    · decide
    · decide
    · have hn := (h.recvMode n hr).2
      show 2 + n < 16
      omega
  have htype : BitVec.ofNat 16 s.messageType.toNat = s.messageType.toBitVec := BitVec.ofNat_toNat _ _
  unfold Header.ofValues? Shape.header
  rw [fit?_eq s.messageType.toNat_lt, fit?_eq (by omega), fit?_eq (by omega), fit?_eq (by omega), fit?_eq (by omega),
    fit?_eq (by omega), fit?_eq hmode, fit?_eq (by decide), htype]
  cases s.recvMode <;> rfl

theorem specialHeader_eq {s : Shape} (h : s.Announceable) :
    SpecialHeader.ofValues? s.sendPid s.copyHandles s.moveHandles = some s.special := by
  obtain ⟨-, -, -, -, h5, h6⟩ := counts_le h
  unfold SpecialHeader.ofValues? Shape.special
  rw [fit?_eq (by omega), fit?_eq (by omega)]
  rfl

/-- **Starting a message meets no fault**: a shape that passes the check has no count too large for its field. -/
theorem start_eq (s : Shape) (m : Message) : start s m = some ((Frame.start s).on m) := by
  unfold start Frame.start
  cases hv : s.validate with
  | error e => rfl
  | ok _ =>
    have hs := s.validate_iff_announceable.1 hv
    have hput : put .zero 0 s.header.encode = some (Message.zero.write 0 s.header.encode) :=
      put_eq (by rw [Header.length_encode]; decide)
    have hputSpecial : ∀ m : Message, put m Header.width s.special.encode = some (m.write Header.width s.special.encode) :=
      fun m => put_eq (by rw [SpecialHeader.length_encode]; decide)
    simp only [ofShape_eq hs, Option.bind_eq_bind, Option.bind_some]
    cases hl : Layout.ofShape? s with
    | error e => rfl
    | ok layout =>
      simp only [header_eq hs, Option.bind_some, hput, specialHeader_eq hs, hputSpecial]
      unfold Frame.blank
      cases s.needsSpecial <;> rfl

end Guarded
end HorizonIpc
