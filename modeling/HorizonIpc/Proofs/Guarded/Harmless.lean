import HorizonIpc.Proofs.Guarded.Binder
/-!
# Proofs.Guarded.Harmless — no answer can stop a client

Whatever 256 bytes come back, and whatever is stored in the buffers that a request names, every step that could be a
fault is none: reading the message stays inside it, and the clients run to their end as the plain ones do (`no_fault`).
-/
namespace HorizonIpc
namespace Guarded

open Binder (Staging)

/-- **A message that cannot harm who reads it**, however much data is asked for. -/
structure Harmless (m : Message) (dataSize : Nat) : Prop where
  view : view m = some (View.ofMessage m)
  response : response m dataSize = some (Response.ofMessage m dataSize)
  request : request m = some (ServerRequest.ofMessage m)
  /-- The sections of a message that is accepted lie in it, and so do all their entries. -/
  inside : ∀ v, View.ofMessage m = .ok v → Contained v ∧ Accessible v
  insideRequest : ∀ r, ServerRequest.ofMessage m = .ok r → Contained r.view ∧ Accessible r.view
  /-- There is one way in which a framing is refused. -/
  refused : ∀ e, View.ofMessage m = .error e → e = .outOfBounds
  refusedResponse : ∀ e, Response.ofMessage m dataSize = .error (.layout e) → e = .outOfBounds
  refusedRequest : ∀ e, ServerRequest.ofMessage m = .error (.layout e) → e = .outOfBounds
  accepted : ∀ r, Response.ofMessage m dataSize = .ok r → r.data.length = dataSize ∧
    r.copyHandles.length ≤ 15 ∧ r.moveHandles.length ≤ 15 ∧ r.sendStatics.length ≤ 15

/-- **Every message is harmless.** -/
theorem harmless (m : Message) (dataSize : Nat) : Harmless m dataSize := by
  have hinside : ∀ v, View.ofMessage m = .ok v → Contained v ∧ Accessible v := fun v hv =>
    ⟨contained_of_view hv, (contained_of_view hv).accessible⟩
  exact {
    view := view_eq m
    response := response_eq m dataSize
    request := request_eq m
    inside := hinside
    insideRequest := fun r hr => hinside r.view (view_of_request hr)
    refused := fun _ => layoutError_of_view
    refusedResponse := fun _ => layoutError_of_response
    refusedRequest := fun _ => layoutError_of_request
    accepted := fun _ => response_ok }

theorem filledLength_le (r : Response) (p : Placement) (requested : Nat) : r.filledLength p requested ≤ requested := by
  unfold Response.filledLength
  split
  · exact Nat.min_le_right _ _
  · exact Nat.le_refl _

/-- **What counts of the reply buffer** is never more than the buffer holds. -/
theorem received_le {σ : Type} (t : Transport σ) (s : σ) (b : Binder) (code flags : UInt32) (request reply : Buffer)
    {received : Nat} {filled : Buffer}
    (h : ((b.dispatch code flags request reply).run t s).value = (.ok received, filled)) :
    received ≤ filled.bytes.length := by
  -- both forms of the command read the outcome off one exchange, and store into the same buffer
  have hend : ∀ {x : Client (Except CallError Response × List Store)} {count : Response → Nat},
      (∀ response, count response ≤ reply.bytes.length) →
      ((x >>= fun out => pure (out.1.map count, reply.after out.2)).run t s).value = (.ok received, filled) →
      received ≤ filled.bytes.length := by
    intro x count hcount hx
    change ((x.bind _).run t s).value = _ at hx
    rw [Client.run_bind] at hx
    rcases hr : (x.run t s).value with ⟨e | response, stores⟩ <;> rw [hr] at hx
    · cases hx
    · cases hx
      rw [Buffer.length_after]
      exact hcount response
  unfold Binder.dispatch at h
  cases hb : b.mode <;> rw [hb] at h
  · exact hend (fun _ => Nat.le_refl _) h
  · exact hend (fun response => filledLength_le response _ _) h

/-- **No answer can stop a client.**  Every message is harmless to who reads it.  On every transport, whatever it answers
and whatever it stores in the buffers, the client asks for the size of a pointer buffer, registers, opens a service, and
initializes, uses and closes a binder without a fault. -/
theorem no_fault :
    (∀ m dataSize, Harmless m dataSize) ∧
      (∀ session, Faultless (queryPointerBufferSize session) (Service.queryPointerBufferSize session)) ∧
      (∀ n : NameService, Faultless (register n) n.register) ∧
      (∀ (n : NameService) name, Faultless (openService n name) (n.openService name)) ∧
      (∀ (b : Binder) selector config, Faultless (init b selector config) (b.init selector config)) ∧
      (∀ (b : Binder) staging code flags (request reply : Parcel), request.Bounded →
        Faultless (transact b staging code flags request reply) (b.transact staging code flags request reply)) ∧
      (∀ p : Parcel, p.Reachable → p.Bounded) ∧
      (∀ b : Binder, Faultless (exit b) b.exit) ∧
      ∀ {σ : Type} (t : Transport σ) (s : σ) (b : Binder) code flags request reply received filled,
        ((b.dispatch code flags request reply).run t s).value = (.ok received, filled) →
          received ≤ filled.bytes.length := by
  refine ⟨harmless, ?query, ?register, ?openService, ?init, ?transact, ?bounded, ?exit, ?received⟩
  case query => exact fun session => faultless_of_eq (queryPointerBufferSize_eq session)
  case register => exact fun n => faultless_of_eq (register_eq n)
  case openService => exact fun n name => faultless_of_eq (openService_eq n name)
  case init => exact fun b selector config => faultless_of_eq (init_eq b selector config)
  case transact =>
    intro b staging code flags request reply hrequest
    exact faultless_of_eq (transact_eq code flags staging hrequest reply)
  case bounded => exact fun p hp => hp.sound.bounded
  case exit => exact fun b => faultless_of_eq (exit_eq b)
  case received =>
    intro σ t s b code flags request reply received filled h
    exact received_le t s b code flags request reply h

/-- The server stores more than the reply buffer holds, and tells of a static of 65535 bytes: all of the buffer counts,
and what is in it is refused. -/
theorem no_fault_flood :
    let t : Transport Unit := {
      send := fun _ e _ => (.ok ⟨((Reply.write { sendStatics := [⟨0, 0xFFFF⟩] }).on e.message).2,
        [⟨0x2000, List.replicate 0x500 0xFF⟩]⟩, ())
      close := fun _ _ => (.ok (), ()) }
    let b := (Binder.create ⟨⟨1⟩, 0⟩ 7).initialized ⟨.ofParts 3 0 0, none, false⟩ 9 0x1000
    let sent := b.dispatch 4 0 (Binder.stagedRequest ⟨0x1000, 0x2000⟩ .empty) (Binder.blankReply ⟨0x1000, 0x2000⟩)
    Parcel.empty.Reachable ∧ Parcel.empty.Bounded ∧
      ((transact b ⟨0x1000, 0x2000⟩ 4 0 .empty .empty).run.run t ()).value.map Prod.fst =
        some (.error (.invalidReply .replyOutOfBounds)) ∧
      (sent.run t ()).value.1 = .ok 0x400 ∧ 0x400 ≤ (sent.run t ()).value.2.bytes.length := by
  intro t b sent
  obtain ⟨-, -, -, -, -, htransact, hbounded, -, hreceived⟩ := no_fault
  have hempty : Parcel.empty.Bounded := hbounded .empty .fresh
  have hrun := htransact b ⟨0x1000, 0x2000⟩ 4 0 .empty .empty hempty t ()
  have he : ((b.transact ⟨0x1000, 0x2000⟩ 4 0 .empty .empty).run t ()).value.1 =
      .error (.invalidReply .replyOutOfBounds) := Attempt.eq_error (by decide +kernel)
  have hsent : (sent.run t ()).value.1 = .ok 0x400 := by decide +kernel
  refine ⟨.fresh, hempty, ?_, hsent, ?_⟩
  · rw [hrun, Option.map_some, he]
  · exact hreceived t () b 4 0 _ _ 0x400 _ (by rw [← hsent])

end Guarded
end HorizonIpc
