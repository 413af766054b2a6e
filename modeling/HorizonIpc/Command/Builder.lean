import HorizonIpc.Command.Payload
/-!
# Command.Builder — collecting what a request carries, and laying it out

A `Builder` collects the buffers and handles of one request, at most eight to a category, and then lays the message
out.  Each addition is an attempt on the builder.  A buffer that may travel either way is added in both ways at once, as
a static and as a mapped buffer, with an empty region in the place of the way not taken.

A request and a control request carry a command header and arguments in their payload; a close request carries nothing.
Each is an attempt on the message: where it fails, the message stays as it was.
-/
namespace HorizonIpc

/-- A part of the client's memory. -/
structure Region where
  address : UInt64
  length : Nat
  deriving DecidableEq

namespace Region

/-- The region that is no memory at all. -/
def empty : Region := ⟨0, 0⟩

end Region

/-- A region with the mode in which it is mapped. -/
structure Mapping where
  region : Region
  mode : BufferMode
  deriving DecidableEq

/-- The way in which a buffer travels. -/
inductive Placement where
  /-- Copied through the server's pointer buffer. -/
  | static
  /-- Mapped into the server. -/
  | mapped
  deriving DecidableEq

namespace Placement

/-- Statics are chosen if the total fits a threshold that is not zero. -/
def select (total threshold : Nat) : Placement :=
  if 0 < threshold ∧ total ≤ threshold then static else mapped

def label : Placement → String
  | static => "Static"
  | mapped => "Mapped"

end Placement

/-- What a request carries besides its payload. -/
structure Builder where
  sendStatics : List Region := []
  sendBuffers : List Mapping := []
  recvBuffers : List Mapping := []
  /-- Where the server's statics go. -/
  recvStatics : List Region := []
  copyHandles : List UInt32 := []
  moveHandles : List UInt32 := []
  sendPid : Bool := false
  deriving DecidableEq

namespace Builder

def maxBuffers : Nat := 8

def maxHandles : Nat := 8

/-- The largest buffer that a static can name. -/
def maxStaticSize : Nat := 0xFFFF

/-- The builder that carries nothing. -/
def empty : Builder := {}

/-- Adds a value behind a list that has room for it, and gives up with `full` where it has none. -/
def push {α : Type} (limit : Nat) (full : BuildError) (xs : List α) (x : α) : Except BuildError (List α) :=
  if xs.length < limit then .ok (xs ++ [x]) else .error full

/-- Refuses a region that a static cannot name. -/
def checkStatic (r : Region) : Except BuildError Unit :=
  if r.length > maxStaticSize then .error .staticTooLarge else .ok ()

def addSendBuffer (m : Mapping) : Attempt Builder BuildError Unit := do
  let b ← get
  let xs ← Attempt.ofExcept (push maxBuffers .tooManyBuffers b.sendBuffers m)
  set { b with sendBuffers := xs }

def addRecvBuffer (m : Mapping) : Attempt Builder BuildError Unit := do
  let b ← get
  let xs ← Attempt.ofExcept (push maxBuffers .tooManyBuffers b.recvBuffers m)
  set { b with recvBuffers := xs }

/-- Adds a static behind the others, whatever its size. -/
def pushSendStatic (r : Region) : Attempt Builder BuildError Unit := do
  let b ← get
  let xs ← Attempt.ofExcept (push maxBuffers .tooManyBuffers b.sendStatics r)
  set { b with sendStatics := xs }

/-- Adds a place for a static behind the others, whatever its size. -/
def pushRecvStatic (r : Region) : Attempt Builder BuildError Unit := do
  let b ← get
  let xs ← Attempt.ofExcept (push maxBuffers .tooManyBuffers b.recvStatics r)
  set { b with recvStatics := xs }

def addSendStatic (r : Region) : Attempt Builder BuildError Unit := do
  Attempt.ofExcept (checkStatic r)
  pushSendStatic r

/-- Adds a place for a static that the server sends back. -/
def addRecvStatic (r : Region) : Attempt Builder BuildError Unit := do
  Attempt.ofExcept (checkStatic r)
  pushRecvStatic r

/-- The region for each of the two ways: the one not taken is empty. -/
def placed (p : Placement) (r : Region) : Except BuildError (Region × Region) :=
  match p with
  | .static => (checkStatic r).map fun _ => (r, .empty)
  | .mapped => .ok (.empty, r)

/-- Adds a buffer that is sent as a static or as a mapped buffer. -/
def addInAuto (p : Placement) (m : Mapping) : Attempt Builder BuildError Unit := do
  let b ← get
  if maxBuffers ≤ b.sendStatics.length ∨ maxBuffers ≤ b.sendBuffers.length then throw .tooManyBuffers
  let (pointer, mapped) ← Attempt.ofExcept (placed p m.region)
  pushSendStatic pointer
  addSendBuffer { m with region := mapped }

/-- Adds a buffer that is filled as a static or as a mapped buffer. -/
def addOutAuto (p : Placement) (m : Mapping) : Attempt Builder BuildError Unit := do
  let b ← get
  if maxBuffers ≤ b.recvStatics.length ∨ maxBuffers ≤ b.recvBuffers.length then throw .tooManyBuffers
  let (pointer, mapped) ← Attempt.ofExcept (placed p m.region)
  pushRecvStatic pointer
  addRecvBuffer { m with region := mapped }

def addCopyHandle (handle : UInt32) : Attempt Builder BuildError Unit := do
  let b ← get
  let xs ← Attempt.ofExcept (push maxHandles .tooManyHandles b.copyHandles handle)
  set { b with copyHandles := xs }

def addMoveHandle (handle : UInt32) : Attempt Builder BuildError Unit := do
  let b ← get
  let xs ← Attempt.ofExcept (push maxHandles .tooManyHandles b.moveHandles handle)
  set { b with moveHandles := xs }

def requestPid : Attempt Builder BuildError Unit :=
  modify fun b => { b with sendPid := true }

/-- One addition to a builder. -/
inductive Addition where
  | sendBuffer (m : Mapping)
  | recvBuffer (m : Mapping)
  | sendStatic (r : Region)
  | recvStatic (r : Region)
  | inAuto (p : Placement) (m : Mapping)
  | outAuto (p : Placement) (m : Mapping)
  | copyHandle (handle : UInt32)
  | moveHandle (handle : UInt32)
  | pid
  deriving DecidableEq

def add : Addition → Attempt Builder BuildError Unit
  | .sendBuffer m => addSendBuffer m
  | .recvBuffer m => addRecvBuffer m
  | .sendStatic r => addSendStatic r
  | .recvStatic r => addRecvStatic r
  | .inAuto p m => addInAuto p m
  | .outAuto p m => addOutAuto p m
  | .copyHandle h => addCopyHandle h
  | .moveHandle h => addMoveHandle h
  | .pid => requestPid

/-- Makes additions one after the other, going on after those that fail, and answers how each went. -/
def addAll : List Addition → Builder → List (Except BuildError Unit) × Builder
  | [], b => ([], b)
  | a :: rest, b =>
    let (r, b) := (add a).on b
    let (rs, b) := addAll rest b
    (r :: rs, b)

/-- The builder with all the given additions, unless one of them fails. -/
def collect (additions : List Addition) : Except BuildError Builder :=
  match (additions.forM add).on empty with
  | (.ok _, b) => .ok b
  | (.error e, _) => .error e

/-- Where the sizes of the receive statics stand in the data words: behind the room for aligning the payload and the
payload itself, at an even offset. -/
def sizeTable (payloadSize : Nat) : Nat := alignUp 2 (PayloadHeader.alignment + payloadSize)

def dataWords (b : Builder) (payloadSize : Nat) : Nat :=
  unitsFor Layout.wordWidth (sizeTable payloadSize + 2 * b.recvStatics.length)

def shape (b : Builder) (messageType : UInt16) (payloadSize : Nat) : Shape where
  messageType := messageType
  sendStatics := b.sendStatics.length
  sendBuffers := b.sendBuffers.length
  recvBuffers := b.recvBuffers.length
  exchBuffers := 0
  dataWords := b.dataWords payloadSize
  recvMode := if b.recvStatics.isEmpty then none else some (.explicit b.recvStatics.length)
  sendPid := b.sendPid
  copyHandles := b.copyHandles.length
  moveHandles := b.moveHandles.length

def encodeHandles (handles : List UInt32) : Bytes := handles.flatMap Bytes.ofUInt32

/-- The statics of a section, numbered from zero. -/
def encodeStatics (regions : List Region) : Bytes :=
  regions.zipIdx.flatMap fun (r, i) => (StaticDescriptor.describe r.address r.length i).encode

def encodeBuffers (mappings : List Mapping) : Bytes :=
  mappings.flatMap fun m => (BufferDescriptor.describe m.region.address m.region.length m.mode).encode

def encodeRecvList (regions : List Region) : Bytes :=
  regions.flatMap fun r => (RecvEntry.describe r.address r.length).encode

def encodeSizes (regions : List Region) : Bytes :=
  regions.flatMap fun r => Bytes.ofNatLE 2 r.length

/-- Lays the request out in a message and answers where its payload of zeros is.  A request that does not fit is
refused, and then the message stays as it was. -/
def finalize (b : Builder) (messageType : UInt16) (payloadSize : Nat) : Attempt Message BuildError Slot := do
  if payloadSize > Shape.maxDataWords * Layout.wordWidth then throw (.layout .tooManyDataWords)
  let layout ← (Frame.start (b.shape messageType payloadSize)).mapError .layout
  modify fun m =>
    let m := m.write layout.copyHandles (encodeHandles b.copyHandles)
    let m := m.write layout.moveHandles (encodeHandles b.moveHandles)
    let m := m.write layout.sendStatics (encodeStatics b.sendStatics)
    let m := m.write layout.sendBuffers (encodeBuffers b.sendBuffers)
    let m := m.write layout.recvBuffers (encodeBuffers b.recvBuffers)
    let m := m.write layout.recvList (encodeRecvList b.recvStatics)
    m.write (layout.dataWords + sizeTable payloadSize) (encodeSizes b.recvStatics)
  return ⟨alignUp PayloadHeader.alignment layout.dataWords, payloadSize⟩

end Builder

namespace Request

/-- Lays out a message whose payload is a command header and `dataSize` bytes of arguments, all zero. -/
def start (b : Builder) (type : CommandType) (command : UInt32) (dataSize : Nat) : Attempt Message BuildError Slot := do
  let slot ← b.finalize type.code (PayloadHeader.width + dataSize)
  let _ ← slot.within (PayloadHeader.write (.request command 0))
  return slot

def service (b : Builder) (command : UInt32) (dataSize : Nat) : Attempt Message BuildError Slot :=
  start b .request command dataSize

def control (command : UInt32) (dataSize : Nat) : Attempt Message BuildError Slot :=
  start .empty .control command dataSize

def close : Attempt Message BuildError Unit := do
  let _ ← (Frame.start { messageType := CommandType.close.code }).mapError BuildError.layout

/-- Copies arguments behind the command header of a payload. -/
def putArguments (slot : Slot) (arguments : Bytes) : Attempt Message BuildError Unit :=
  modify fun m => m.write (slot.start + PayloadHeader.width) arguments

end Request
end HorizonIpc
