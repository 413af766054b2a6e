import HorizonIpc.Service.Basic
import HorizonIpc.ServiceName
/-!
# Service.NameService — looking services up by name

The name service knows every other service.  A client registers once and then asks for sessions by name.  A session is
opened in two steps, the lookup and the question for its pointer buffer; if the second fails, the session is closed
again and the first failure is what the client is told.
-/
namespace HorizonIpc

/-- A session to the name service. -/
structure NameService where
  service : Service
  deriving DecidableEq

/-- Why a service cannot be opened. -/
inductive OpenError where
  | lookup (e : FetchError)
  | probe (e : CallError)
  /-- The new session does not tell its pointer buffer, and then cannot be closed either. -/
  | probeAndClose (probe : CallError) (close : CloseError)
  deriving DecidableEq

namespace OpenError

instance : Fault OpenError where
  label
    | lookup e => Fault.nested "GetHandle" (Fault.label e)
    | probe e => Fault.nested "Probe" (Fault.label e)
    | probeAndClose p c =>
      "ProbeAndClose \x7b probe: " ++ Fault.label p ++ ", close: " ++ Fault.label c ++ " \x7d"
  message
    | lookup _ => "failed to get service handle"
    | probe _ => "failed to query pointer buffer size"
    | probeAndClose _ c => "failed to query pointer buffer size, then to close the session (" ++ Fault.message c ++ ")"
  causes
    | lookup e => Fault.chain e
    | probe e => Fault.chain e
    | probeAndClose p _ => Fault.chain p

instance : Coded OpenError where
  status
    | lookup e => Coded.status e
    | probe e => Coded.status e
    | probeAndClose p _ => Coded.status p

end OpenError

namespace NameService

/-- The port at which the name service listens. -/
def portName : ServiceName := .ofBytes (Text.utf8 "sm:")

def registerCommand : UInt32 := 0

def lookupCommand : UInt32 := 1

/-- Registers the client by its process id, which the kernel fills in. -/
def register (n : NameService) : Client (Except CallError Unit) := do
  let r ← Call.ask { command := registerCommand, arguments := Bytes.ofUInt64 0, additions := [.pid] } n.service.session
  return r.map fun _ => ()

/-- Looks a name up and answers the handle of the new session. -/
def lookup (n : NameService) (name : ServiceName) : Client (Except FetchError SessionHandle) := do
  let r ← Call.ask { command := lookupCommand, arguments := Bytes.ofUInt64 name.key } n.service.session
  match r with
  | .error e => return .error (.call e)
  | .ok response =>
    match response.moveHandles with
    | handle :: _ => return .ok ⟨handle⟩
    | [] => return .error .missingHandle

def openService (n : NameService) (name : ServiceName) : Client (Except OpenError Service) := do
  match ← n.lookup name with
  | .error e => return .error (.lookup e)
  | .ok session =>
    match ← Service.ofSession session with
    | .ok service => return .ok service
    | .error probe =>
      match ← Client.closeHandle session.raw with
      | .ok () => return .error (.probe probe)
      | .error close => return .error (.probeAndClose probe close)

def close (n : NameService) : Client (Except Service.CloseError Unit) := n.service.close

end NameService
end HorizonIpc
