import HorizonIpc.Attempt
import HorizonIpc.Frame.Descriptor
import HorizonIpc.Frame.Header
import HorizonIpc.Frame.Message
import HorizonIpc.Status
/-!
# Frame.Layout — where the sections of a message lie, and how it is started

The `Shape` of a message says how many entries each section has, and its `Layout` where each section starts.  The
sections follow each other without gaps, in one order: header, special header, process id, copied handles, moved
handles, statics, the three kinds of mapped buffers, data words, receive list.

A message of a given shape is started by clearing it and writing the headers; the caller then fills the sections at the
offsets of the layout.  The process id is left to the kernel.
-/
namespace HorizonIpc

/-- The shape of a receive list. -/
inductive RecvMode where
  /-- One entry that takes every static sent back. -/
  | auto
  /-- That many entries, one for each static. -/
  | explicit (count : Nat)
  deriving DecidableEq

namespace RecvMode

/-- The receive mode of a header field; 0 and 1 both stand for no receive list. -/
def ofField? : Nat → Option RecvMode
  | 0 | 1 => none
  | 2 => some auto
  | n + 3 => some (explicit (n + 1))

def toField : RecvMode → Nat
  | auto => 2
  | explicit n => 2 + n

def count : RecvMode → Nat
  | auto => 1
  | explicit n => n

def label : RecvMode → String
  | auto => "Auto"
  | explicit n => Fault.nested "Explicit" (toString n)

end RecvMode

/-- Why a message cannot be framed. -/
inductive LayoutError where
  | tooManyDescriptors
  | tooManyDataWords
  | outOfBounds
  deriving DecidableEq

instance : Fault LayoutError where
  label
    | .tooManyDescriptors => "TooManyDescriptors"
    | .tooManyDataWords => "TooManyDataWords"
    | .outOfBounds => "OutOfBounds"
  message
    | .tooManyDescriptors => "too many descriptors in one category"
    | .tooManyDataWords => "too many data words"
    | .outOfBounds => "message does not fit in the IPC buffer"
  causes _ := []

/-- How many entries each section of a message has. -/
structure Shape where
  messageType : UInt16 := 0
  sendStatics : Nat := 0
  sendBuffers : Nat := 0
  recvBuffers : Nat := 0
  exchBuffers : Nat := 0
  dataWords : Nat := 0
  recvMode : Option RecvMode := none
  sendPid : Bool := false
  copyHandles : Nat := 0
  moveHandles : Nat := 0
  deriving DecidableEq

namespace Shape

/-- The largest count that a four-bit field holds. -/
def maxCount : Nat := 0xF

/-- The largest count of data words. -/
def maxDataWords : Nat := 0x3FF

/-- Whether the message carries what only a special header can announce. -/
def needsSpecial (s : Shape) : Bool := s.sendPid || s.copyHandles > 0 || s.moveHandles > 0

/-- How many receive list entries follow the data words. -/
def recvCount (s : Shape) : Nat :=
  match s.recvMode with
  | some m => m.count
  | none => 0

/-- The counts that share the four-bit limit. -/
def counts (s : Shape) : List Nat :=
  [s.sendStatics, s.sendBuffers, s.recvBuffers, s.exchBuffers, s.copyHandles, s.moveHandles]

/-- Whether a receive list of that mode can be announced: at least one and at most 13 explicit entries. -/
def recvModeFits : Option RecvMode → Bool
  | some (.explicit n) => 0 < n && n ≤ maxCount - 2
  | _ => true

/-- Checks that every count fits its header field: entry counts first, then the data words. -/
def validate (s : Shape) : Except LayoutError Unit :=
  if s.counts.any (· > maxCount) || !recvModeFits s.recvMode then .error .tooManyDescriptors
  else if s.dataWords > maxDataWords then .error .tooManyDataWords
  else .ok ()

/-- The header that announces the shape; a count that does not fit its field is cut. -/
def header (s : Shape) : Header where
  messageType := s.messageType.toBitVec
  sendStatics := BitVec.ofNat 4 s.sendStatics
  sendBuffers := BitVec.ofNat 4 s.sendBuffers
  recvBuffers := BitVec.ofNat 4 s.recvBuffers
  exchBuffers := BitVec.ofNat 4 s.exchBuffers
  dataWords := BitVec.ofNat 10 s.dataWords
  recvListMode := BitVec.ofNat 4 (match s.recvMode with | some m => m.toField | none => 0)
  recvListOffset := 0
  hasSpecial := s.needsSpecial

def special (s : Shape) : SpecialHeader where
  sendPid := s.sendPid
  copyHandles := BitVec.ofNat 4 s.copyHandles
  moveHandles := BitVec.ofNat 4 s.moveHandles

/-- The shape that the headers announce.  A header without the special-header flag announces no process id and no
handles. -/
def ofHeaders (h : Header) (special : SpecialHeader) : Shape where
  messageType := .ofBitVec h.messageType
  sendStatics := h.sendStatics.toNat
  sendBuffers := h.sendBuffers.toNat
  recvBuffers := h.recvBuffers.toNat
  exchBuffers := h.exchBuffers.toNat
  dataWords := h.dataWords.toNat
  recvMode := RecvMode.ofField? h.recvListMode.toNat
  sendPid := h.hasSpecial && special.sendPid
  copyHandles := if h.hasSpecial then special.copyHandles.toNat else 0
  moveHandles := if h.hasSpecial then special.moveHandles.toNat else 0

end Shape

/-- The offset of every section of a message. -/
structure Layout where
  pid : Option Nat
  copyHandles : Nat
  moveHandles : Nat
  sendStatics : Nat
  sendBuffers : Nat
  recvBuffers : Nat
  exchBuffers : Nat
  dataWords : Nat
  recvList : Nat
  /-- One past the last byte. -/
  stop : Nat
  deriving DecidableEq

namespace Layout

def handleWidth : Nat := 4

def wordWidth : Nat := 4

def pidWidth : Nat := 8

/-- The offsets of the sections of a message of the given shape. -/
def ofShape (s : Shape) : Layout :=
  let special := Header.width + if s.needsSpecial then SpecialHeader.width else 0
  let copyHandles := special + if s.sendPid then pidWidth else 0
  let moveHandles := copyHandles + s.copyHandles * handleWidth
  let sendStatics := moveHandles + s.moveHandles * handleWidth
  let sendBuffers := sendStatics + s.sendStatics * StaticDescriptor.width
  let recvBuffers := sendBuffers + s.sendBuffers * BufferDescriptor.width
  let exchBuffers := recvBuffers + s.recvBuffers * BufferDescriptor.width
  let dataWords := exchBuffers + s.exchBuffers * BufferDescriptor.width
  let recvList := dataWords + s.dataWords * wordWidth
  { pid := if s.sendPid then some special else none
    copyHandles, moveHandles, sendStatics, sendBuffers, recvBuffers, exchBuffers, dataWords, recvList
    stop := recvList + s.recvCount * RecvEntry.width }

/-- The layout of a shape, refused if the sections do not fit a message. -/
def ofShape? (s : Shape) : Except LayoutError Layout :=
  if (ofShape s).stop > Message.size then .error .outOfBounds else .ok (ofShape s)

end Layout

namespace Frame

/-- The cleared message with the headers of a shape. -/
def blank (s : Shape) : Message :=
  let m := Message.zero.write 0 s.header.encode
  if s.needsSpecial then m.write Header.width s.special.encode else m

/-- Starts a message of the given shape and answers where its sections are.  A shape that cannot be announced or does
not fit is refused, and then the message stays as it was. -/
def start (s : Shape) : Attempt Message LayoutError Layout := do
  Attempt.ofExcept s.validate
  let layout ← Attempt.ofExcept (Layout.ofShape? s)
  set (blank s)
  return layout

end Frame
end HorizonIpc
