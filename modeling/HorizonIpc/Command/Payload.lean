import HorizonIpc.Attempt
import HorizonIpc.Bytes
import HorizonIpc.Frame.View
import HorizonIpc.Status
/-!
# Command.Payload — the command header inside the data words

A command puts its own header into the data words of a message, at the first offset that is a multiple of 16.  A request
header carries the command's number and a response header the command's status; the bytes behind the header are
arguments or results.
-/
namespace HorizonIpc

/-- What a message asks of the server's session, in the message type. -/
inductive CommandType where
  | invalid
  | close
  | request
  | control
  deriving DecidableEq

namespace CommandType

def code : CommandType → UInt16
  | invalid => 0
  | close => 2
  | request => 4
  | control => 5

def ofCode? (c : UInt16) : Option CommandType :=
  if c = 0 then some invalid
  else if c = 2 then some close
  else if c = 4 then some request
  else if c = 5 then some control
  else none

def label : CommandType → String
  | invalid => "Invalid"
  | close => "Close"
  | request => "Request"
  | control => "Control"

theorem ofCode?_code (t : CommandType) : ofCode? t.code = some t := by cases t <;> decide

end CommandType

/-- Why a request cannot be built; always the caller's fault. -/
inductive BuildError where
  | tooManyBuffers
  | tooManyHandles
  | staticTooLarge
  | payloadTooSmall
  | layout (e : LayoutError)
  deriving DecidableEq

instance : Fault BuildError where
  label
    | .tooManyBuffers => "TooManyBuffers"
    | .tooManyHandles => "TooManyHandles"
    | .staticTooLarge => "StaticTooLarge"
    | .payloadTooSmall => "PayloadTooSmall"
    | .layout e => Fault.nested "Layout" (Fault.label e)
  message
    | .tooManyBuffers => "too many buffers in one descriptor category"
    | .tooManyHandles => "too many handles"
    | .staticTooLarge => "static buffer larger than 64 KiB"
    | .payloadTooSmall => "payload slot smaller than the CMIF header"
    | .layout _ => "message layout rejected"
  causes
    | .layout e => Fault.chain e
    | _ => []

instance : Coded BuildError := ⟨fun _ => Coded.status ClientStatus.badInput⟩

/-- The header of a command. -/
structure PayloadHeader where
  magic : UInt32
  version : UInt32
  /-- The number of the command in a request, its status in a response. -/
  subject : UInt32
  token : UInt32
  deriving DecidableEq

namespace PayloadHeader

def width : Nat := 16

/-- The offsets that the header may start at are the multiples of this. -/
def alignment : Nat := 16

/-- The mark of a request header: the letters SFCI. -/
def requestMagic : UInt32 := 0x49434653

/-- The mark of a response header: the letters SFCO. -/
def responseMagic : UInt32 := 0x4F434653

/-- The header of a request; one with a token is of version 1. -/
def request (command token : UInt32) : PayloadHeader where
  magic := requestMagic
  version := if token = 0 then 0 else 1
  subject := command
  token := token

def response (status : UInt32) : PayloadHeader where
  magic := responseMagic
  version := 0
  subject := status
  token := 0

def encode (h : PayloadHeader) : Bytes :=
  Bytes.ofUInt32 h.magic ++ Bytes.ofUInt32 h.version ++ Bytes.ofUInt32 h.subject ++ Bytes.ofUInt32 h.token

def decode (bs : Bytes) : PayloadHeader where
  magic := Bytes.toUInt32 bs
  version := Bytes.toUInt32 (bs.drop 4)
  subject := Bytes.toUInt32 (bs.drop 8)
  token := Bytes.toUInt32 (bs.drop 12)

/-- Writes the header at the start of a payload and answers how many bytes are left behind it. -/
def write (h : PayloadHeader) : Attempt Bytes BuildError Nat := do
  let payload ← get
  if payload.length < width then throw .payloadTooSmall
  set (Bytes.overlay payload 0 h.encode)
  return payload.length - width

end PayloadHeader

/-- Where the payload of a command lies in a message. -/
structure Slot where
  start : Nat
  size : Nat
  deriving DecidableEq

namespace Slot

/-- An attempt on the payload as an attempt on the message. -/
def within {ε α : Type} (s : Slot) (x : Attempt Bytes ε α) : Attempt Message ε α :=
  x.inside (fun m => m.window s.start s.size) (fun m payload => m.write s.start payload)

end Slot

namespace View

/-- Where the command header of a message starts. -/
def headerStart (v : View) : Nat := alignUp PayloadHeader.alignment v.layout.dataWords

/-- The command header of a message and the rest of the data words behind it, if the header and `dataSize` bytes lie
inside the data words. -/
def payload? (v : View) (dataSize : Nat) : Option (PayloadHeader × Bytes) :=
  let dataStart := v.headerStart + PayloadHeader.width
  if dataStart + dataSize ≤ v.dataStop then
    some (.decode (v.message.window v.headerStart PayloadHeader.width),
      v.message.window dataStart (v.dataStop - dataStart))
  else none

end View
end HorizonIpc
