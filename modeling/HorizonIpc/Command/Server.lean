import HorizonIpc.Command.Response
/-!
# Command.Server — the other side of a command

A server decodes the request out of a message and writes its reply over it.  The two functions here are the
counterparts of `Request.start` and `Response.ofMessage`.
-/
namespace HorizonIpc

/-- A request as a server sees it. -/
structure ServerRequest where
  /-- What the message asks for, where the message type is a known one. -/
  commandType : Option CommandType
  view : View
  /-- The command's number; none in a close request. -/
  command : Option UInt32
  arguments : Bytes

namespace ServerRequest

/-- Decodes the request in a message.  A close request needs no command header; any other message does. -/
def ofMessage (m : Message) : Except ReplyError ServerRequest := do
  let view ← (View.ofMessage m).mapError .layout
  let commandType := CommandType.ofCode? view.shape.messageType
  if commandType = some .close then
    return ⟨commandType, view, none, []⟩
  match view.payload? 0 with
  | none => throw .truncated
  | some (header, rest) =>
    if header.magic ≠ PayloadHeader.requestMagic then throw .invalidMagic
    return ⟨commandType, view, some header.subject, rest⟩

end ServerRequest

/-- What a server replies. -/
structure Reply where
  status : UInt32 := 0
  data : Bytes := []
  copyHandles : List UInt32 := []
  moveHandles : List UInt32 := []
  sendStatics : List Region := []
  deriving DecidableEq

namespace Reply

def shape (r : Reply) : Shape where
  sendStatics := r.sendStatics.length
  dataWords := unitsFor Layout.wordWidth (PayloadHeader.alignment + PayloadHeader.width + r.data.length)
  copyHandles := r.copyHandles.length
  moveHandles := r.moveHandles.length

/-- Writes the reply over a message.  A reply that does not fit is refused, and then the message stays as it was. -/
def write (r : Reply) : Attempt Message BuildError Unit := do
  let layout ← (Frame.start r.shape).mapError BuildError.layout
  let start := alignUp PayloadHeader.alignment layout.dataWords
  modify fun m =>
    let m := m.write layout.copyHandles (Builder.encodeHandles r.copyHandles)
    let m := m.write layout.moveHandles (Builder.encodeHandles r.moveHandles)
    let m := m.write layout.sendStatics (Builder.encodeStatics r.sendStatics)
    let m := m.write start (PayloadHeader.response r.status).encode
    m.write (start + PayloadHeader.width) r.data

end Reply
end HorizonIpc
