import HorizonIpc.Proofs.Frame.Shape
/-!
# Proofs.Frame.Contents — what a message holds, section by section

`Contents` is a message as its sections, and `bytes` writes them one behind another.  A message that starts with these
bytes is decoded to these sections (`ofMessage_of_bytes`, `copyHandles_view` and so on), whatever follows.
-/
namespace HorizonIpc

/-- The sections of a message. -/
structure Contents where
  messageType : UInt16 := 0
  pid : Option UInt64 := none
  copyHandles : List UInt32 := []
  moveHandles : List UInt32 := []
  sendStatics : List StaticDescriptor := []
  sendBuffers : List BufferDescriptor := []
  recvBuffers : List BufferDescriptor := []
  exchBuffers : List BufferDescriptor := []
  data : Bytes := []
  recvMode : Option RecvMode := none
  recvList : List RecvEntry := []
  data_mod : data.length % Layout.wordWidth = 0 := by rfl
  length_recvList : recvList.length = (recvMode.map RecvMode.count).getD 0 := by rfl

/-- The message has the given bytes, and zeros behind them. -/
def Message.Holds (m : Message) (front : Bytes) : Prop := m.bytes = front ++ Bytes.zeros (size - front.length)

namespace Message.Holds

variable {m : Message} {front new : Bytes} {start : Nat}

/-- **Writing the next part** right behind what a message holds. -/
theorem write (h : m.Holds front) (hs : start = front.length) (hn : (front ++ new).length ≤ size) :
    (m.write start new).Holds (front ++ new) := by
  rw [List.length_append] at hn
  unfold Holds at h ⊢
  rw [bytes_write, Bytes.overlay_behind h hs (by omega), List.length_append, Nat.sub_sub]

theorem append_zeros (h : m.Holds front) {n : Nat} (hn : front.length + n ≤ size) :
    m.Holds (front ++ Bytes.zeros n) := by
  unfold Holds at h ⊢
  rw [h, List.append_assoc, ← Bytes.zeros_add, List.length_append, Bytes.length_zeros]
  congr 2
  omega

theorem prefix_bytes (h : m.Holds front) : front <+: m.bytes := by
  rw [h]
  exact List.prefix_append _ _

end Message.Holds

theorem Frame.blank_holds (s : Shape) : (Frame.blank s).Holds s.headers := Frame.bytes_blank s

namespace Contents

/-- How many entries each section has. -/
def shape (c : Contents) : Shape where
  messageType := c.messageType
  sendStatics := c.sendStatics.length
  sendBuffers := c.sendBuffers.length
  recvBuffers := c.recvBuffers.length
  exchBuffers := c.exchBuffers.length
  dataWords := c.data.length / Layout.wordWidth
  recvMode := c.recvMode
  sendPid := c.pid.isSome
  copyHandles := c.copyHandles.length
  moveHandles := c.moveHandles.length

def pidSlot (c : Contents) : Bytes :=
  match c.pid with
  | some p => Bytes.ofUInt64 p
  | none => []

/-! ## the bytes up to each section -/

/-- The headers and the slot of the process id. -/
def upToCopyHandles (c : Contents) : Bytes := c.shape.headers ++ c.pidSlot

def upToMoveHandles (c : Contents) : Bytes := c.upToCopyHandles ++ c.copyHandles.flatMap Bytes.ofUInt32

def upToSendStatics (c : Contents) : Bytes := c.upToMoveHandles ++ c.moveHandles.flatMap Bytes.ofUInt32

def upToSendBuffers (c : Contents) : Bytes := c.upToSendStatics ++ c.sendStatics.flatMap StaticDescriptor.encode

def upToRecvBuffers (c : Contents) : Bytes := c.upToSendBuffers ++ c.sendBuffers.flatMap BufferDescriptor.encode

def upToExchBuffers (c : Contents) : Bytes := c.upToRecvBuffers ++ c.recvBuffers.flatMap BufferDescriptor.encode

def upToData (c : Contents) : Bytes := c.upToExchBuffers ++ c.exchBuffers.flatMap BufferDescriptor.encode

def upToRecvList (c : Contents) : Bytes := c.upToData ++ c.data

/-- All sections, one behind another. -/
def bytes (c : Contents) : Bytes := c.upToRecvList ++ c.recvList.flatMap RecvEntry.encode

theorem length_pidSlot (c : Contents) : c.pidSlot.length = if c.shape.sendPid then Layout.pidWidth else 0 := by
  unfold pidSlot shape
  cases c.pid with
  | none => rfl
  | some p => exact Bytes.length_ofUInt64 p

theorem length_data (c : Contents) : c.data.length = c.shape.dataWords * Layout.wordWidth := by
  have h := Nat.div_add_mod c.data.length Layout.wordWidth
  rw [c.data_mod, Nat.add_zero, Nat.mul_comm] at h
  exact h.symm

theorem recvCount_shape (c : Contents) : c.shape.recvCount = c.recvList.length := by
  rw [c.length_recvList]
  unfold Shape.recvCount shape
  cases c.recvMode <;> rfl

variable (c : Contents)

/-! ## each section starts where the layout says -/

theorem length_upToCopyHandles : c.upToCopyHandles.length = (Layout.ofShape c.shape).copyHandles := by
  rw [upToCopyHandles, List.length_append, Shape.length_headers, length_pidSlot]
  rfl

theorem length_upToMoveHandles : c.upToMoveHandles.length = (Layout.ofShape c.shape).moveHandles := by
  rw [upToMoveHandles, List.length_append, length_upToCopyHandles, Bytes.length_flatMap Bytes.length_ofUInt32]
  rfl

theorem length_upToSendStatics : c.upToSendStatics.length = (Layout.ofShape c.shape).sendStatics := by
  rw [upToSendStatics, List.length_append, length_upToMoveHandles, Bytes.length_flatMap Bytes.length_ofUInt32]
  rfl

theorem length_upToSendBuffers : c.upToSendBuffers.length = (Layout.ofShape c.shape).sendBuffers := by
  rw [upToSendBuffers, List.length_append, length_upToSendStatics,
    Bytes.length_flatMap StaticDescriptor.length_encode]
  rfl

theorem length_upToRecvBuffers : c.upToRecvBuffers.length = (Layout.ofShape c.shape).recvBuffers := by
  rw [upToRecvBuffers, List.length_append, length_upToSendBuffers,
    Bytes.length_flatMap BufferDescriptor.length_encode]
  rfl

theorem length_upToExchBuffers : c.upToExchBuffers.length = (Layout.ofShape c.shape).exchBuffers := by
  rw [upToExchBuffers, List.length_append, length_upToRecvBuffers,
    Bytes.length_flatMap BufferDescriptor.length_encode]
  rfl

theorem length_upToData : c.upToData.length = (Layout.ofShape c.shape).dataWords := by
  rw [upToData, List.length_append, length_upToExchBuffers, Bytes.length_flatMap BufferDescriptor.length_encode]
  rfl

theorem length_upToRecvList : c.upToRecvList.length = (Layout.ofShape c.shape).recvList := by
  rw [upToRecvList, List.length_append, length_upToData, length_data]
  rfl

/-- **The bytes end where the layout ends.** -/
theorem length_bytes : c.bytes.length = (Layout.ofShape c.shape).stop := by
  rw [bytes, List.length_append, length_upToRecvList, Bytes.length_flatMap RecvEntry.length_encode, ← recvCount_shape]
  rfl

/-! ## the bytes start with those up to each section -/

theorem upToRecvList_prefix : c.upToRecvList <+: c.bytes := List.prefix_append _ _

theorem upToData_prefix : c.upToData <+: c.bytes := (List.prefix_append _ _).trans c.upToRecvList_prefix

theorem upToExchBuffers_prefix : c.upToExchBuffers <+: c.bytes := (List.prefix_append _ _).trans c.upToData_prefix

theorem upToRecvBuffers_prefix : c.upToRecvBuffers <+: c.bytes :=
  (List.prefix_append _ _).trans c.upToExchBuffers_prefix

theorem upToSendBuffers_prefix : c.upToSendBuffers <+: c.bytes :=
  (List.prefix_append _ _).trans c.upToRecvBuffers_prefix

theorem upToSendStatics_prefix : c.upToSendStatics <+: c.bytes :=
  (List.prefix_append _ _).trans c.upToSendBuffers_prefix

theorem upToMoveHandles_prefix : c.upToMoveHandles <+: c.bytes :=
  (List.prefix_append _ _).trans c.upToSendStatics_prefix

theorem upToCopyHandles_prefix : c.upToCopyHandles <+: c.bytes :=
  (List.prefix_append _ _).trans c.upToMoveHandles_prefix

/-- A blank message holds everything up to the copied handles, if the process id is not filled in yet. -/
theorem blank_holds (hp : c.pid = none ∨ c.pid = some 0) (hfit : c.bytes.length ≤ Message.size) :
    (Frame.blank c.shape).Holds c.upToCopyHandles := by
  have hle := c.upToCopyHandles_prefix.length_le
  rw [upToCopyHandles, List.length_append] at hle
  rw [upToCopyHandles]
  rcases hp with hp | hp
  · have hslot : c.pidSlot = [] := by rw [pidSlot, hp]
    rw [hslot, List.append_nil]
    exact Frame.blank_holds c.shape
  · have hslot : c.pidSlot = Bytes.zeros 8 := by rw [pidSlot, hp]; rfl
    rw [hslot] at hle ⊢
    exact (Frame.blank_holds c.shape).append_zeros (Nat.le_trans hle hfit)

/-- **The handles and the statics written over a blank message.** -/
theorem holds_upToSendBuffers (hp : c.pid = none ∨ c.pid = some 0) (hfit : c.bytes.length ≤ Message.size) :
    ((((Frame.blank c.shape).write (Layout.ofShape c.shape).copyHandles (c.copyHandles.flatMap Bytes.ofUInt32)).write
      (Layout.ofShape c.shape).moveHandles (c.moveHandles.flatMap Bytes.ofUInt32)).write
      (Layout.ofShape c.shape).sendStatics (c.sendStatics.flatMap StaticDescriptor.encode)).Holds
      c.upToSendBuffers := by
  have fits : ∀ {front : Bytes}, front <+: c.bytes → front.length ≤ Message.size :=
    fun hpre => Nat.le_trans hpre.length_le hfit
  have h0 := c.blank_holds hp hfit
  have h1 := h0.write c.length_upToCopyHandles.symm (fits c.upToMoveHandles_prefix)
  have h2 := h1.write c.length_upToMoveHandles.symm (fits c.upToSendStatics_prefix)
  exact h2.write c.length_upToSendStatics.symm (fits c.upToSendBuffers_prefix)

/-- **The receive list written behind data words** that are still zeros. -/
theorem holds_recvList {m : Message} (h : m.Holds c.upToData) (hfit : c.bytes.length ≤ Message.size) :
    (m.write (Layout.ofShape c.shape).recvList (c.recvList.flatMap RecvEntry.encode)).Holds
      (c.upToData ++ (Bytes.zeros c.data.length ++ c.recvList.flatMap RecvEntry.encode)) := by
  have hlen : (c.upToData ++ Bytes.zeros c.data.length).length = (Layout.ofShape c.shape).recvList := by
    rw [← length_upToRecvList, upToRecvList, List.length_append, List.length_append, Bytes.length_zeros]
  rw [bytes, List.length_append, length_upToRecvList, ← hlen] at hfit
  rw [← List.append_assoc]
  refine (h.append_zeros ?_).write hlen.symm (by rw [List.length_append]; exact hfit)
  rw [List.length_append, Bytes.length_zeros] at hfit
  omega

/-! ## a message that starts with the bytes -/

/-- A message that holds the sections, and anything behind them. -/
def Shown (m : Message) : Prop := c.bytes <+: m.bytes

/-- The view of a message that holds the sections. -/
def view (m : Message) : View := ⟨m, c.shape, Layout.ofShape c.shape⟩

variable {c} {m : Message}

/-- **A message that holds the sections is decoded to them**, if their counts can be announced. -/
theorem ofMessage_of_shown (hv : c.shape.validate = .ok ()) (h : c.Shown m) : View.ofMessage m = .ok (c.view m) := by
  obtain ⟨rest, hrest⟩ := c.upToCopyHandles_prefix.trans h
  have hfit : (Layout.ofShape c.shape).stop ≤ Message.size := by
    have hle := h.length_le
    rwa [length_bytes, m.size_eq] at hle
  have hheaders : m.bytes = c.shape.headers ++ (c.pidSlot ++ rest) := by
    rw [← hrest, upToCopyHandles, List.append_assoc]
  exact View.ofMessage_of_headers hv hheaders hfit

theorem copyHandles_view (h : c.Shown m) : (c.view m).copyHandles = c.copyHandles := by
  obtain ⟨rest, hrest⟩ := c.upToMoveHandles_prefix.trans h
  exact Message.map_decode_entries hrest.symm c.length_upToCopyHandles.symm (fun w => Bytes.length_ofUInt32 w)
    Bytes.toUInt32_ofUInt32_self

theorem moveHandles_view (h : c.Shown m) : (c.view m).moveHandles = c.moveHandles := by
  obtain ⟨rest, hrest⟩ := c.upToSendStatics_prefix.trans h
  exact Message.map_decode_entries hrest.symm c.length_upToMoveHandles.symm (fun w => Bytes.length_ofUInt32 w)
    Bytes.toUInt32_ofUInt32_self

theorem sendStatics_view (h : c.Shown m) : (c.view m).sendStatics = c.sendStatics := by
  obtain ⟨rest, hrest⟩ := c.upToSendBuffers_prefix.trans h
  exact Message.map_decode_entries hrest.symm c.length_upToSendStatics.symm StaticDescriptor.length_encode
    StaticDescriptor.decode_encode

theorem sendBuffers_view (h : c.Shown m) : (c.view m).sendBuffers = c.sendBuffers := by
  obtain ⟨rest, hrest⟩ := c.upToRecvBuffers_prefix.trans h
  exact Message.map_decode_entries hrest.symm c.length_upToSendBuffers.symm BufferDescriptor.length_encode
    BufferDescriptor.decode_encode

theorem recvBuffers_view (h : c.Shown m) : (c.view m).recvBuffers = c.recvBuffers := by
  obtain ⟨rest, hrest⟩ := c.upToExchBuffers_prefix.trans h
  exact Message.map_decode_entries hrest.symm c.length_upToRecvBuffers.symm BufferDescriptor.length_encode
    BufferDescriptor.decode_encode

theorem recvList_view (h : c.Shown m) : (c.view m).recvList = c.recvList := by
  obtain ⟨rest, hrest⟩ := h
  have hread := Message.map_decode_entries hrest.symm c.length_upToRecvList.symm RecvEntry.length_encode
    RecvEntry.decode_encode
  rw [← recvCount_shape] at hread
  exact hread

theorem pid_view (h : c.Shown m) : (c.view m).pid = c.pid := by
  obtain ⟨rest, hrest⟩ := c.upToCopyHandles_prefix.trans h
  unfold View.pid view Layout.ofShape shape
  cases hp : c.pid with
  | none => rfl
  | some p =>
    have hslot : c.pidSlot = Bytes.ofUInt64 p := by rw [pidSlot, hp]
    have hw : m.window c.shape.headers.length Layout.pidWidth = Bytes.ofUInt64 p := by
      refine Bytes.window_middle (c := rest) ?_ rfl (Bytes.length_ofUInt64 p).symm
      rw [← hrest, upToCopyHandles, hslot]
    have hread := congrArg Bytes.toUInt64 hw
    rw [Shape.length_headers, Bytes.toUInt64_ofUInt64_self] at hread
    unfold shape at hread
    rw [hp] at hread
    exact congrArg some hread

theorem window_data (h : c.Shown m) {k len : Nat} (hk : k + len ≤ c.data.length) :
    m.window ((Layout.ofShape c.shape).dataWords + k) len = c.data.window k len := by
  obtain ⟨rest, hrest⟩ := c.upToRecvList_prefix.trans h
  exact Bytes.window_inside (c := rest) (by rw [← hrest, upToRecvList]) (by rw [length_upToData]) hk

theorem dataStop_view : (c.view m).dataStop = (Layout.ofShape c.shape).dataWords + c.data.length := by
  rw [length_data]
  rfl

end Contents
end HorizonIpc
