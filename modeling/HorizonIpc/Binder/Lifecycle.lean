import HorizonIpc.Binder.Basic
/-!
# Binder.Lifecycle — acquiring and releasing a remote object

`init` acquires the strong reference, the weak reference and the native handle, in this order, and asks for the size of
the relay's pointer buffer.  If a step fails, everything acquired before it is released in the opposite order, failures
of the release only leave a notice, and the binder is as if nothing had been tried.  `exit` releases everything whatever
fails on the way, and reports the first failure.
-/
namespace HorizonIpc
namespace Binder

def adjust (b : Binder) (amount : Int32) (kind : RefKind) : Client (Except CallError Unit) :=
  Relay.adjust b.relay.session b.object amount kind

/-- Gives one reference back; a failure only leaves a notice. -/
def release (b : Binder) (kind : RefKind) : Client Unit := do
  match ← b.adjust (-1) kind with
  | .ok () => return ()
  | .error e => b.notice .warn ("failed to release " ++ kind.label ++ " reference: " ++ Fault.message e)

/-- Gives both references back, the weak one first. -/
def releaseReferences (b : Binder) : Client Unit := do
  b.release .weak
  b.release .strong

/-- Closes a native handle that is not kept; a failure only leaves a notice. -/
def discardHandle (b : Binder) (handle : UInt32) : Client Unit := do
  match ← Client.closeHandle handle with
  | .ok () => return ()
  | .error e => b.notice .warn ("failed to close native handle: " ++ Fault.message e)

/-- Asks for a native handle and refuses one that is none. -/
def fetchHandle (b : Binder) (selector : UInt32) : Client (Except InitError UInt32) := do
  match ← Relay.nativeHandle b.relay.session b.object selector with
  | .error e => return .error (.nativeHandle e)
  | .ok handle => return if handle = SessionHandle.invalid then .error .invalidNativeHandle else .ok handle

/-- Acquires everything or nothing: the native handle and the size of the relay's pointer buffer. -/
def acquire (b : Binder) (selector : UInt32) : Client (Except InitError (UInt32 × UInt16)) := do
  match ← b.adjust 1 .strong with
  | .error e => return .error (.increaseStrong e)
  | .ok () =>
    match ← b.adjust 1 .weak with
    | .error e =>
      b.release .strong
      return .error (.increaseWeak e)
    | .ok () =>
      match ← b.fetchHandle selector with
      | .error e =>
        b.releaseReferences
        return .error e
      | .ok handle =>
        match ← Service.queryPointerBufferSize b.relay.session with
        | .ok size => return .ok (handle, size)
        | .error e =>
          b.discardHandle handle
          b.releaseReferences
          return .error (.pointerBufferSize e)

def initialized (b : Binder) (config : BinderConfig) (handle : UInt32) (size : UInt16) : Binder :=
  { b with
    state := .initialized
    nativeHandle := some handle
    pointerBufferSize := size
    staticThreshold := config.staticThreshold
    mode := if config.supportsCombined then .combined else .legacy }

def init (b : Binder) (selector : UInt32) (config : BinderConfig) : Client (Except InitError Unit × Binder) := do
  match b.state with
  | .closed => return (.error .closed, b)
  | .initializing | .initialized => return (.error .alreadyInitialized, b)
  | .created =>
    let b := { b with state := .initializing }
    match ← b.acquire selector with
    | .error e =>
      b.notice .debug ("init failed: " ++ Fault.message e)
      return (.error e, { b with state := .created })
    | .ok (handle, size) =>
      let b := b.initialized config handle size
      b.notice .debug ("initialized, mode " ++ b.mode.label ++ ", pointer buffer " ++ Text.hex size.toNat)
      return (.ok (), b)

def firstFailure (outcomes : List (Except ExitError Unit)) : Except ExitError Unit :=
  outcomes.forM id

/-- Releases what an initialized binder holds and closes it; any other binder is left alone. -/
def exit (b : Binder) : Client (Except ExitError Unit × Binder) := do
  if b.state ≠ .initialized then return (.ok (), b)
  let weak ← b.adjust (-1) .weak
  let strong ← b.adjust (-1) .strong
  let closed ← match b.nativeHandle with
    | some handle => Client.closeHandle handle
    | none => pure (.ok ())
  b.notice .debug "closed"
  return (firstFailure [weak.mapError .decreaseWeak, strong.mapError .decreaseStrong, closed.mapError .closeNativeHandle],
    { b with state := .closed, nativeHandle := none })

end Binder
end HorizonIpc
