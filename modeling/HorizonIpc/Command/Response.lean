import HorizonIpc.Command.Builder
/-!
# Command.Response — what comes back

A reply is accepted in four steps: the framing, the room for the header and the data expected, the mark of the header,
and the status.  Only then are the data, the handles and the statics handed out.
-/
namespace HorizonIpc

/-- Why a reply, or a request on the server's side, is not accepted. -/
inductive ReplyError where
  | layout (e : LayoutError)
  | truncated
  | invalidMagic
  | service (code : ErrorCode)
  deriving DecidableEq

namespace ReplyError

/-- Whether the other side broke the protocol, as opposed to reporting a failure. -/
def isViolation : ReplyError → Bool
  | service _ => false
  | _ => true

instance : Fault ReplyError where
  label
    | layout e => Fault.nested "Layout" (Fault.label e)
    | truncated => "Truncated"
    | invalidMagic => "InvalidMagic"
    | service e => Fault.nested "ServiceError" e.label
  message
    | layout _ => "malformed response framing"
    | truncated => "response payload truncated"
    | invalidMagic => "invalid CMIF magic header"
    | service e => "service error: " ++ e.text
  causes
    | layout e => Fault.chain e
    | _ => []

instance : Coded ReplyError where
  status
    | service e => e.word
    | _ => Coded.status ClientStatus.invalidReplyHeader

end ReplyError

/-- An accepted reply. -/
structure Response where
  data : Bytes
  copyHandles : List UInt32
  moveHandles : List UInt32
  sendStatics : List StaticDescriptor
  deriving DecidableEq

namespace Response

/-- Reads a reply that is to carry `dataSize` bytes of data. -/
def ofMessage (m : Message) (dataSize : Nat) : Except ReplyError Response := do
  let view ← (View.ofMessage m).mapError .layout
  match view.payload? dataSize with
  | none => throw .truncated
  | some (header, rest) =>
    if header.magic ≠ PayloadHeader.responseMagic then throw .invalidMagic
    match ErrorCode.ofWord? header.subject with
    | some e => throw (.service e)
    | none => return {
        data := rest.take dataSize
        copyHandles := view.copyHandles
        moveHandles := view.moveHandles
        sendStatics := view.sendStatics }

/-- How many of `requested` bytes of an output buffer the server filled.  A mapped buffer tells nothing, so all of them;
a static tells its size. -/
def filledLength (r : Response) (p : Placement) (requested : Nat) : Nat :=
  match p, r.sendStatics with
  | .static, d :: _ => min d.size.toNat requested
  | _, _ => requested

end Response
end HorizonIpc
