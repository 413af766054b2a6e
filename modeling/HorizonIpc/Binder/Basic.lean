import HorizonIpc.Binder.Relay
import HorizonIpc.Parcel.Wire
import HorizonIpc.Version
/-!
# Binder.Basic — binders, their settings and how they fail

A binder is the client's hold on one remote object.  While it is initialized it owns a weak and a strong reference and a
native handle of the object; the relay session that it uses belongs to someone else.

From version 3.0.0 on the relay takes transactions whose buffers may travel as statics.  The settings say which version
runs, whether that command is to be left alone all the same, and up to which size statics are used.
-/
namespace HorizonIpc

/-- Settings of a binder. -/
structure BinderConfig where
  version : Version := default
  /-- The largest request and reply together that travel as statics; the relay's pointer buffer size if there is none. -/
  staticThreshold : Option Nat := none
  forceLegacy : Bool := false
  deriving DecidableEq

namespace BinderConfig

/-- The first version with transactions whose buffers travel either way. -/
def combinedSince : Version := .ofParts 3 0 0

def supportsCombined (c : BinderConfig) : Bool := !c.forceLegacy && decide (combinedSince ≤ c.version)

end BinderConfig

/-- Where a binder is in its life. -/
inductive BinderState where
  | created
  | initializing
  | initialized
  | closed
  deriving DecidableEq

def BinderState.label : BinderState → String
  | created => "Created"
  | initializing => "Initializing"
  | initialized => "Initialized"
  | closed => "Closed"

/-- The command that a binder uses for transactions. -/
inductive TransactMode where
  | legacy
  | combined
  deriving DecidableEq

def TransactMode.label : TransactMode → String
  | legacy => "Legacy"
  | combined => "Combined"

/-- The client's hold on one remote object. -/
structure Binder where
  relay : Service
  object : Int32
  state : BinderState := .created
  nativeHandle : Option UInt32 := none
  pointerBufferSize : UInt16 := 0
  mode : TransactMode := .legacy
  staticThreshold : Option Nat := none
  deriving DecidableEq

/-- Why a binder cannot be initialized. -/
inductive InitError where
  | alreadyInitialized
  | closed
  | increaseStrong (e : CallError)
  | increaseWeak (e : CallError)
  | nativeHandle (e : FetchError)
  | invalidNativeHandle
  | pointerBufferSize (e : CallError)
  deriving DecidableEq

namespace InitError

instance : Fault InitError where
  label
    | alreadyInitialized => "AlreadyInitialized"
    | closed => "Closed"
    | increaseStrong e => Fault.nested "IncreaseStrongRef" (Fault.label e)
    | increaseWeak e => Fault.nested "IncreaseWeakRef" (Fault.label e)
    | nativeHandle e => Fault.nested "GetNativeHandle" (Fault.label e)
    | invalidNativeHandle => "InvalidNativeHandle"
    | pointerBufferSize e => Fault.nested "QueryPointerBufferSize" (Fault.label e)
  message
    | alreadyInitialized => "binder already initialized"
    | closed => "binder closed"
    | increaseStrong _ => "failed to increase strong reference"
    | increaseWeak _ => "failed to increase weak reference"
    | nativeHandle _ => "failed to get native handle"
    | invalidNativeHandle => "invalid native handle"
    | pointerBufferSize _ => "failed to query pointer buffer size"
  causes
    | alreadyInitialized | closed | invalidNativeHandle => []
    | increaseStrong e => Fault.chain e
    | increaseWeak e => Fault.chain e
    | nativeHandle e => Fault.chain e
    | pointerBufferSize e => Fault.chain e

instance : Coded InitError where
  status
    | alreadyInitialized => Coded.status ClientStatus.alreadyInitialized
    | closed | invalidNativeHandle => Coded.status ClientStatus.badInput
    | increaseStrong e => Coded.status e
    | increaseWeak e => Coded.status e
    | nativeHandle e => Coded.status e
    | pointerBufferSize e => Coded.status e

end InitError

/-- Why a transaction fails. -/
inductive TransactError where
  | notInitialized
  | invalidRequest (e : Parcel.Error)
  | call (e : CallError)
  | invalidReply (e : Parcel.Error)
  deriving DecidableEq

namespace TransactError

def isViolation : TransactError → Bool
  | invalidReply e => e.isViolation
  | call (.reply e) => e.isViolation
  | _ => false

instance : Fault TransactError where
  label
    | notInitialized => "NotInitialized"
    | invalidRequest e => Fault.nested "InvalidRequest" (Fault.label e)
    | call e => Fault.nested "Transact" (Fault.label e)
    | invalidReply e => Fault.nested "InvalidReply" (Fault.label e)
  message
    | notInitialized => "binder not initialized"
    | invalidRequest _ => "invalid request parcel"
    | call _ => "transaction failed"
    | invalidReply _ => "invalid reply parcel"
  causes
    | notInitialized => []
    | invalidRequest e => Fault.chain e
    | call e => Fault.chain e
    | invalidReply e => Fault.chain e

instance : Coded TransactError where
  status
    | notInitialized => Coded.status ClientStatus.notInitialized
    | invalidRequest e => Coded.status e
    | call e => Coded.status e
    | invalidReply e => Coded.status e

end TransactError

/-- What failed when a binder was closed. -/
inductive ExitError where
  | decreaseWeak (e : CallError)
  | decreaseStrong (e : CallError)
  | closeNativeHandle (e : CloseError)
  deriving DecidableEq

namespace ExitError

instance : Fault ExitError where
  label
    | decreaseWeak e => Fault.nested "DecreaseWeakRef" (Fault.label e)
    | decreaseStrong e => Fault.nested "DecreaseStrongRef" (Fault.label e)
    | closeNativeHandle e => Fault.nested "CloseNativeHandle" (Fault.label e)
  message
    | decreaseWeak _ => "failed to decrease weak reference"
    | decreaseStrong _ => "failed to decrease strong reference"
    | closeNativeHandle _ => "failed to close native handle"
  causes
    | decreaseWeak e => Fault.chain e
    | decreaseStrong e => Fault.chain e
    | closeNativeHandle e => Fault.chain e

instance : Coded ExitError where
  status
    | decreaseWeak e => Coded.status e
    | decreaseStrong e => Coded.status e
    | closeNativeHandle e => Coded.status e

end ExitError

namespace Binder

/-- The binder for an object, with nothing acquired. -/
def create (relay : Service) (object : Int32) : Binder := { relay, object }

def notice (b : Binder) (level : NoticeLevel) (text : String) : Client Unit :=
  Client.notice level ("binder " ++ toString b.object.toInt ++ ": " ++ text)

end Binder
end HorizonIpc
