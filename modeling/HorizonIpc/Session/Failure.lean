import HorizonIpc.Status
/-!
# Session.Failure — how a send and a close fail

The kernel answers a send and a close with a status word.  The few statuses that callers act on are told apart by
their description, and every other status is kept as it came.  Nothing is retried here: only the caller knows whether a
request may be repeated.
-/
namespace HorizonIpc

/-- Why a synchronous send failed. -/
inductive SendError where
  | terminationRequested
  | outOfResource
  | invalidHandle
  | sessionClosed
  | unknown (code : ErrorCode)
  deriving DecidableEq

namespace SendError

/-- The send error that a known kernel status stands for. -/
def ofKernel : KernelStatus → SendError
  | .terminationRequested => terminationRequested
  | .outOfResource => outOfResource
  | .invalidHandle => invalidHandle
  | .sessionClosed => sessionClosed

def ofCode (e : ErrorCode) : SendError :=
  match KernelStatus.ofDescription? e.description with
  | some k => ofKernel k
  | none => unknown e

/-- The outcome of a send that the kernel answered with a status word. -/
def check (word : UInt32) : Except SendError Unit :=
  match ErrorCode.ofWord? word with
  | none => .ok ()
  | some e => .error (ofCode e)

instance : Fault SendError where
  label
    | terminationRequested => "TerminationRequested"
    | outOfResource => "OutOfResource"
    | invalidHandle => "InvalidHandle"
    | sessionClosed => "SessionClosed"
    | unknown e => Fault.nested "Unknown" e.label
  message
    | terminationRequested => "Termination requested"
    | outOfResource => "Out of resource"
    | invalidHandle => "Invalid handle"
    | sessionClosed => "Session closed"
    | unknown e => "Unknown error: " ++ e.text
  causes _ := []

instance : Coded SendError where
  status
    | terminationRequested => Coded.status KernelStatus.terminationRequested
    | outOfResource => Coded.status KernelStatus.outOfResource
    | invalidHandle => Coded.status KernelStatus.invalidHandle
    | sessionClosed => Coded.status KernelStatus.sessionClosed
    | unknown e => e.word

end SendError

/-- Why closing a handle failed. -/
inductive CloseError where
  | invalidHandle
  | unknown (code : ErrorCode)
  deriving DecidableEq

namespace CloseError

def ofCode (e : ErrorCode) : CloseError :=
  match KernelStatus.ofDescription? e.description with
  | some .invalidHandle => invalidHandle
  | _ => unknown e

/-- The outcome of a close that the kernel answered with a status word. -/
def check (word : UInt32) : Except CloseError Unit :=
  match ErrorCode.ofWord? word with
  | none => .ok ()
  | some e => .error (ofCode e)

instance : Fault CloseError where
  label
    | invalidHandle => "InvalidHandle"
    | unknown e => Fault.nested "Unknown" e.label
  message
    | invalidHandle => "Invalid handle"
    | unknown e => "Unknown error: " ++ e.text
  causes _ := []

instance : Coded CloseError where
  status
    | invalidHandle => Coded.status KernelStatus.invalidHandle
    | unknown e => e.word

end CloseError
end HorizonIpc
