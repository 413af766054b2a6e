import HorizonIpc.Session.Call
/-!
# Service.Basic — open sessions to services

A service is a session and the size of the server's pointer buffer, through which statics travel.  The size is asked for
once, when the session is opened.
-/
namespace HorizonIpc

/-- An open session to a service. -/
structure Service where
  session : SessionHandle
  pointerBufferSize : UInt16
  deriving DecidableEq

/-- Why closing a service fails. -/
inductive Service.CloseError where
  | build (e : BuildError)
  | send (e : SendError)
  | handle (e : HorizonIpc.CloseError)
  deriving DecidableEq

namespace Service

instance : Fault Service.CloseError where
  label
    | .build e => Fault.nested "Build" (Fault.label e)
    | .send e => Fault.nested "SendRequest" (Fault.label e)
    | .handle e => Fault.nested "CloseHandle" (Fault.label e)
  message
    | .build _ => "failed to build request"
    | .send _ => "failed to send request"
    | .handle _ => "failed to close handle"
  causes
    | .build e => Fault.chain e
    | .send e => Fault.chain e
    | .handle e => Fault.chain e

instance : Coded Service.CloseError where
  status
    | .build e => Coded.status e
    | .send e => Coded.status e
    | .handle e => Coded.status e

/-- The number of the command that asks a session for the size of its pointer buffer. -/
def pointerBufferSizeCommand : UInt32 := 3

/-- Asks a session for the size of its pointer buffer. -/
def queryPointerBufferSize (session : SessionHandle) : Client (Except CallError UInt16) := do
  let r ← Call.ask { type := .control, command := pointerBufferSizeCommand, replySize := 2 } session
  return r.map fun response => Bytes.toUInt16 response.data

/-- The service behind a session, once the size of its pointer buffer is known. -/
def ofSession (session : SessionHandle) : Client (Except CallError Service) := do
  let r ← queryPointerBufferSize session
  return r.map fun size => ⟨session, size⟩

def sendClose (session : SessionHandle) : Client (Except Service.CloseError Unit) := do
  match Request.close.on .zero with
  | (.error e, _) => return .error (.build e)
  | (.ok (), message) =>
    match ← Client.sendOn session { message } with
    | .error e => return .error (.send e)
    | .ok _ => return .ok ()

/-- Ends a session: the server is told, and the handle is closed even if that failed.  A handle that cannot be closed is
reported before a request that could not be sent. -/
def close (s : Service) : Client (Except Service.CloseError Unit) := do
  let sent ← sendClose s.session
  match ← Client.closeHandle s.session.raw with
  | .error e => return .error (.handle e)
  | .ok () => return sent

end Service
end HorizonIpc
