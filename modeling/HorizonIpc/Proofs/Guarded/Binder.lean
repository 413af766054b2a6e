import HorizonIpc.Proofs.Binder.Effects
import HorizonIpc.Proofs.Guarded.Client
import HorizonIpc.Proofs.Guarded.Parcel
/-!
# Proofs.Guarded.Binder — no reply stops a binder

The steps of a binder's life are calls, none of which meets a fault.  A transaction adds three: the size of both buffers
together, the part of the staging buffer that is sent, and the part of the reply buffer that counts, which is never more
than there is (`counted_le`).
-/
namespace HorizonIpc
namespace Guarded

open Binder (Staging)

/-! ## the guarded binder -/

def adjust (b : Binder) (amount : Int32) (kind : RefKind) : OptionT Client (Except CallError Unit) := do
  let r ← ask (Binder.adjustCall b.object amount kind) b.relay.session
  return r.map fun _ => ()

def release (b : Binder) (kind : RefKind) : OptionT Client Unit := do
  match ← adjust b (-1) kind with
  | .ok () => return ()
  | .error e =>
    OptionT.lift (b.notice .warn ("failed to release " ++ kind.label ++ " reference: " ++ Fault.message e))

def releaseReferences (b : Binder) : OptionT Client Unit := do
  release b .weak
  release b .strong

def nativeHandle (b : Binder) (selector : UInt32) : OptionT Client (Except FetchError UInt32) := do
  match ← ask (Binder.handleCall b.object selector) b.relay.session with
  | .error e => return .error (.call e)
  | .ok response =>
    match response.copyHandles with
    | handle :: _ => return .ok handle
    | [] => return .error .missingHandle

def fetchHandle (b : Binder) (selector : UInt32) : OptionT Client (Except InitError UInt32) := do
  match ← nativeHandle b selector with
  | .error e => return .error (.nativeHandle e)
  | .ok handle => return if handle = SessionHandle.invalid then .error .invalidNativeHandle else .ok handle

def acquire (b : Binder) (selector : UInt32) : OptionT Client (Except InitError (UInt32 × UInt16)) := do
  match ← adjust b 1 .strong with
  | .error e => return .error (.increaseStrong e)
  | .ok () =>
    match ← adjust b 1 .weak with
    | .error e =>
      release b .strong
      return .error (.increaseWeak e)
    | .ok () =>
      match ← fetchHandle b selector with
      | .error e =>
        releaseReferences b
        return .error e
      | .ok handle =>
        match ← queryPointerBufferSize b.relay.session with
        | .ok size => return .ok (handle, size)
        | .error e =>
          OptionT.lift (b.discardHandle handle)
          releaseReferences b
          return .error (.pointerBufferSize e)

def init (b : Binder) (selector : UInt32) (config : BinderConfig) : OptionT Client (Except InitError Unit × Binder) := do
  match b.state with
  | .closed => return (.error .closed, b)
  | .initializing | .initialized => return (.error .alreadyInitialized, b)
  | .created =>
    let b := { b with state := .initializing }
    match ← acquire b selector with
    | .error e =>
      OptionT.lift (b.notice .debug ("init failed: " ++ Fault.message e))
      return (.error e, { b with state := .created })
    | .ok (handle, size) =>
      let b := b.initialized config handle size
      OptionT.lift (b.notice .debug
        ("initialized, mode " ++ b.mode.label ++ ", pointer buffer " ++ Text.hex size.toNat))
      return (.ok (), b)

def exit (b : Binder) : OptionT Client (Except ExitError Unit × Binder) := do
  if b.state ≠ .initialized then return (.ok (), b)
  let weak ← adjust b (-1) .weak
  let strong ← adjust b (-1) .strong
  let closed ← match b.nativeHandle with
    | some handle => OptionT.lift (Client.closeHandle handle)
    | none => pure (.ok ())
  OptionT.lift (b.notice .debug "closed")
  return (Binder.firstFailure
      [weak.mapError .decreaseWeak, strong.mapError .decreaseStrong, closed.mapError .closeNativeHandle],
    { b with state := .closed, nativeHandle := none })

/-- Sends a staged request; how the buffers travel depends on both their sizes together. -/
def dispatch (b : Binder) (code flags : UInt32) (request reply : Buffer) :
    OptionT Client (Except CallError Nat × Buffer) := do
  let t : Transaction := ⟨b.object, code, flags⟩
  match b.mode with
  | .legacy =>
    let (r, stores) ← exchange (Relay.mappedCall t request reply) b.relay.session
    return (r.map fun _ => reply.bytes.length, reply.after stores)
  | .combined =>
    let total ← check (sum request.bytes.length reply.bytes.length)
    let placement := Placement.select total b.threshold
    let (r, stores) ← exchange (Relay.autoCall t placement request reply) b.relay.session
    return (r.map fun response => response.filledLength placement reply.bytes.length, reply.after stores)

def transact (b : Binder) (staging : Staging) (code flags : UInt32) (request reply : Parcel) :
    OptionT Client (Except TransactError Unit × Parcel) := do
  if b.state ≠ .initialized then return (.error .notInitialized, reply)
  match ← check (serialize request (List.replicate Parcel.stagingSize 0)) with
  | (.error e, _) => return (.error (.invalidRequest e), reply)
  | (.ok used, staged) =>
    let sent ← check (slice staged 0 used)
    let blank : Buffer := ⟨staging.reply, List.replicate Parcel.stagingSize 0⟩
    let (r, filled) ← dispatch b code flags ⟨staging.request, sent⟩ blank
    match r with
    | .error e => return (.error (.call e), reply)
    | .ok received =>
      match ← check (deserialize (← check (slice filled.bytes 0 received)) reply) with
      | (.ok (), reply) => return (.ok (), reply)
      | (.error e, reply) =>
        OptionT.lift (b.notice .warn ("rejected reply to code " ++ toString code.toNat ++ ": " ++ Fault.message e))
        return (.error (.invalidReply e), reply)

/-! ## acquiring and releasing -/

variable (b : Binder)

theorem adjust_eq (amount : Int32) (kind : RefKind) : adjust b amount kind = OptionT.lift (b.adjust amount kind) := by
  unfold adjust
  rw [ask_eq]
  exact lifted_bind fun _ => rfl

theorem release_eq (kind : RefKind) : release b kind = OptionT.lift (b.release kind) := by
  unfold release
  rw [adjust_eq]
  refine lifted_bind fun r => ?_
  cases r <;> rfl

theorem releaseReferences_eq : releaseReferences b = OptionT.lift b.releaseReferences := by
  unfold releaseReferences
  rw [release_eq, release_eq]
  exact lifted_bind fun _ => rfl

theorem fetchHandle_eq (selector : UInt32) : fetchHandle b selector = OptionT.lift (b.fetchHandle selector) := by
  have hnative : nativeHandle b selector =
      OptionT.lift (Relay.nativeHandle b.relay.session b.object selector) := by
    unfold nativeHandle
    rw [ask_eq]
    refine lifted_bind fun r => ?_
    rcases r with e | ⟨_, _ | _, _, _⟩ <;> rfl
  unfold fetchHandle
  rw [hnative]
  refine lifted_bind fun r => ?_
  cases r <;> rfl

theorem acquire_eq (selector : UInt32) : acquire b selector = OptionT.lift (b.acquire selector) := by
  unfold acquire
  rw [adjust_eq]
  refine lifted_bind fun r => ?_
  rcases r with e | _
  · rfl
  dsimp only
  rw [adjust_eq]
  refine lifted_bind fun r => ?_
  rcases r with e | _
  · dsimp only
    rw [release_eq]
    exact lifted_bind fun _ => rfl
  dsimp only
  rw [fetchHandle_eq]
  refine lifted_bind fun r => ?_
  rcases r with e | handle
  · dsimp only
    rw [releaseReferences_eq]
    exact lifted_bind fun _ => rfl
  dsimp only
  rw [queryPointerBufferSize_eq]
  refine lifted_bind fun r => ?_
  rcases r with e | size
  · refine lifted_bind fun _ => ?_
    rw [releaseReferences_eq]
    exact lifted_bind fun _ => rfl
  · rfl

/-- **Initializing a binder meets no fault**, whatever fails on the way. -/
theorem init_eq (selector : UInt32) (config : BinderConfig) :
    init b selector config = OptionT.lift (b.init selector config) := by
  unfold init Binder.init
  cases b.state with
  | closed | initializing | initialized => rfl
  | created =>
    dsimp only
    rw [acquire_eq]
    refine lifted_bind fun r => ?_
    rcases r with e | ⟨handle, size⟩
    · exact lifted_bind fun _ => rfl
    · exact lifted_bind fun _ => rfl

theorem exit_eq : exit b = OptionT.lift b.exit := by
  unfold exit Binder.exit
  split
  · rfl
  · rw [adjust_eq, adjust_eq]
    refine lifted_bind fun weak => lifted_bind fun strong => ?_
    cases b.nativeHandle with
    | some handle => exact lifted_bind fun _ => lifted_bind fun _ => rfl
    | none => exact lifted_bind fun _ => rfl

/-! ## transacting -/

variable {b} (code flags : UInt32)

theorem dispatch_eq {request reply : Buffer} (hrequest : request.bytes.length ≤ Parcel.stagingSize)
    (hreply : reply.bytes.length = Parcel.stagingSize) :
    dispatch b code flags request reply = OptionT.lift (b.dispatch code flags request reply) := by
  have hlimit : Parcel.stagingSize + Parcel.stagingSize < wordLimit := by decide
  unfold dispatch Binder.dispatch
  cases b.mode with
  | legacy =>
    dsimp only
    rw [exchange_eq]
    exact lifted_bind fun _ => rfl
  | combined =>
    have hsum : sum request.bytes.length reply.bytes.length = some (request.bytes.length + Parcel.stagingSize) := by
      rw [← hreply]
      exact sum_eq (by omega)
    dsimp only
    rw [hsum]
    show exchange _ _ >>= _ = _
    rw [exchange_eq]
    exact lifted_bind fun _ => rfl

/-- **No more of the reply buffer counts than there is.** -/
theorem counted_le (requestSize : Nat) (statics : List StaticDescriptor) :
    b.counted requestSize statics ≤ Parcel.stagingSize := by
  unfold Binder.counted
  split
  · exact Nat.min_le_right _ _
  · exact Nat.le_refl _

/-- **Transacting meets no fault**, whatever comes back and wherever it is stored. -/
theorem transact_eq (staging : Staging) {request : Parcel} (h : request.Bounded) (reply : Parcel) :
    transact b staging code flags request reply = OptionT.lift (b.transact staging code flags request reply) := by
  unfold transact Binder.transact
  split
  · rfl
  have hzeros : (List.replicate Parcel.stagingSize (0 : UInt8)).length = Parcel.stagingSize := List.length_replicate
  generalize (List.replicate Parcel.stagingSize (0 : UInt8) : Bytes) = zeros at hzeros ⊢
  rw [serialize_eq h]
  rcases serialize_cases request zeros with hserialize | ⟨staged, hserialize, hstaged, hroom⟩ <;> rw [hserialize]
  · rfl
  have hsent : (staged.take request.wireSize).length ≤ Parcel.stagingSize := by
    rw [List.length_take]
    omega
  show check (slice staged 0 request.wireSize) >>= _ = _
  rw [slice_zero (by omega)]
  show dispatch _ _ _ _ _ >>= _ = OptionT.lift (b.dispatch _ _ _ _ >>= _)
  rw [dispatch_eq code flags hsent hzeros, Binder.dispatch_eq code flags hsent hzeros]
  refine lifted_send fun answer => ?_
  generalize (b.transactCall code flags ⟨staging.request, staged.take request.wireSize⟩
    ⟨staging.reply, zeros⟩).outcome answer = outcome
  obtain ⟨e | response, stores⟩ := outcome
  · rfl
  -- the stores cannot change the size of the reply buffer, and no more than that counts
  have hfilled : ((⟨staging.reply, zeros⟩ : Buffer).after stores).bytes.length = Parcel.stagingSize := by
    rw [Buffer.length_after]
    exact hzeros
  generalize (⟨staging.reply, zeros⟩ : Buffer).after stores = filled at hfilled ⊢
  have hcounted := counted_le (b := b) (staged.take request.wireSize).length response.sendStatics
  show check (slice filled.bytes 0 (b.counted _ response.sendStatics)) >>= _ = _
  rw [slice_zero (by rw [hfilled]; exact hcounted)]
  show check (deserialize _ reply) >>= _ = _
  rw [deserialize_eq]
  dsimp only [Except.map]
  rcases (Parcel.deserialize (filled.bytes.take (b.counted _ response.sendStatics))).on reply with ⟨e | _, p⟩
  · exact lifted_bind fun _ => rfl
  · rfl

end Guarded
end HorizonIpc
