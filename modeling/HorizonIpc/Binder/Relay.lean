import HorizonIpc.Service.NameService
/-!
# Binder.Relay — the commands of the binder relay

The relay is the service through which remote objects are reached.  Each command here is one round trip on a relay
session: a transaction with an object, a change of one of its reference counts, or the question for one of its native
handles.  Nothing is kept between them.
-/
namespace HorizonIpc

/-- The two counts of references to an object. -/
inductive RefKind where
  | weak
  | strong
  deriving DecidableEq

namespace RefKind

/-- The number of the kind in a request. -/
def code : RefKind → Int32
  | weak => 0
  | strong => 1

def label : RefKind → String
  | weak => "Weak"
  | strong => "Strong"

end RefKind

/-- A transaction with a remote object. -/
structure Transaction where
  object : Int32
  code : UInt32
  flags : UInt32
  deriving DecidableEq

namespace Relay

def name : ServiceName := .ofBytes (Text.utf8 "dispdrv")

def transactCommand : UInt32 := 0

def adjustCommand : UInt32 := 1

def nativeHandleCommand : UInt32 := 2

def transactAutoCommand : UInt32 := 3

def signed (v : Int32) : Bytes := Bytes.ofUInt32 v.toUInt32

def transactionArguments (t : Transaction) : Bytes :=
  signed t.object ++ Bytes.ofUInt32 t.code ++ Bytes.ofUInt32 t.flags

def openSession (n : NameService) : Client (Except OpenError Service) := n.openService name

def mappedCall (t : Transaction) (request reply : Buffer) : Call where
  command := transactCommand
  arguments := transactionArguments t
  additions := [.sendBuffer ⟨request.region, .normal⟩, .recvBuffer ⟨reply.region, .normal⟩]
  buffers := [request, reply]

/-- The call of a transaction whose buffers travel the given way. -/
def autoCall (t : Transaction) (p : Placement) (request reply : Buffer) : Call where
  command := transactAutoCommand
  arguments := transactionArguments t
  additions := [.inAuto p ⟨request.region, .normal⟩, .outAuto p ⟨reply.region, .normal⟩]
  buffers := [request, reply]

/-- Carries a transaction out in mapped buffers: how much of the reply buffer counts, which is all of it, and the reply
buffer. -/
def transact (session : SessionHandle) (t : Transaction) (request reply : Buffer) :
    Client (Except CallError Nat × Buffer) := do
  let (r, stores) ← (mappedCall t request reply).exchange session
  return (r.map fun _ => reply.bytes.length, reply.after stores)

/-- Carries a transaction out in buffers that travel the given way: how much of the reply buffer the server filled, and
the reply buffer. -/
def transactAuto (session : SessionHandle) (t : Transaction) (p : Placement) (request reply : Buffer) :
    Client (Except CallError Nat × Buffer) := do
  let (r, stores) ← (autoCall t p request reply).exchange session
  return (r.map fun response => response.filledLength p reply.bytes.length, reply.after stores)

def adjust (session : SessionHandle) (object amount : Int32) (kind : RefKind) : Client (Except CallError Unit) := do
  let arguments := signed object ++ signed amount ++ signed kind.code
  let r ← Call.ask { command := adjustCommand, arguments } session
  return r.map fun _ => ()

/-- Asks for a native handle of an object; a handle of zero is passed on. -/
def nativeHandle (session : SessionHandle) (object : Int32) (selector : UInt32) :
    Client (Except FetchError UInt32) := do
  let arguments := signed object ++ Bytes.ofUInt32 selector
  match ← Call.ask { command := nativeHandleCommand, arguments } session with
  | .error e => return .error (.call e)
  | .ok response =>
    match response.copyHandles with
    | handle :: _ => return .ok handle
    | [] => return .error .missingHandle

end Relay
end HorizonIpc
