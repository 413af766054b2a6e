import HorizonIpc.Binder.Basic
/-!
# Binder.Transact — transactions with a remote object

The request parcel is written into one staging buffer, the relay fills another, and the reply parcel takes over what is
in it.  The staging buffers travel as statics when the request and the whole second buffer together are small enough, and
as mapped buffers otherwise; the object sees the same bytes either way.
-/
namespace HorizonIpc
namespace Binder

/-- Where in the client's memory the staging buffers are. -/
structure Staging where
  request : UInt64
  reply : UInt64
  deriving DecidableEq

/-- The largest size that travels as statics: the setting, or else what the relay's pointer buffer holds. -/
def threshold (b : Binder) : Nat := b.staticThreshold.getD b.pointerBufferSize.toNat

/-- How the staging buffers of a request of that size travel. -/
def placement (b : Binder) (requestSize : Nat) : Placement :=
  Placement.select (requestSize + Parcel.stagingSize) b.threshold

/-- Sends a staged request: how much of the reply buffer counts, and the reply buffer. -/
def dispatch (b : Binder) (code flags : UInt32) (request reply : Buffer) :
    Client (Except CallError Nat × Buffer) :=
  let t : Transaction := ⟨b.object, code, flags⟩
  match b.mode with
  | .legacy => Relay.transact b.relay.session t request reply
  | .combined => Relay.transactAuto b.relay.session t (b.placement request.bytes.length) request reply

/-- Sends a request parcel as a transaction and reads the answer into a reply parcel.  Whatever fails, the reply parcel
stays as it was. -/
def transact (b : Binder) (staging : Staging) (code flags : UInt32) (request reply : Parcel) :
    Client (Except TransactError Unit × Parcel) := do
  if b.state ≠ .initialized then return (.error .notInitialized, reply)
  match request.serialize.on (List.replicate Parcel.stagingSize 0) with
  | (.error e, _) => return (.error (.invalidRequest e), reply)
  | (.ok used, staged) =>
    let blank : Buffer := ⟨staging.reply, List.replicate Parcel.stagingSize 0⟩
    let (r, filled) ← b.dispatch code flags ⟨staging.request, staged.take used⟩ blank
    match r with
    | .error e => return (.error (.call e), reply)
    | .ok received =>
      match (Parcel.deserialize (filled.bytes.take received)).on reply with
      | (.ok (), reply) => return (.ok (), reply)
      | (.error e, reply) =>
        b.notice .warn ("rejected reply to code " ++ toString code.toNat ++ ": " ++ Fault.message e)
        return (.error (.invalidReply e), reply)

end Binder
end HorizonIpc
