import HorizonIpc.Proofs.Binder.Commands
import HorizonIpc.Proofs.Parcel.RoundTrip
/-!
# Proofs.Binder.Effects — what a transaction does and what it leaves alone

A transaction closes nothing and sends at most one message.  Where it fails, at whatever stage, the reply parcel is as it
was; where it succeeds, the reply parcel is what was read from the part of the reply buffer that counts
(`transact_effects`).
-/
namespace HorizonIpc

open Bytes (zeros)

namespace Parcel

theorem deserialize_error {received : Bytes} {p q : Parcel} {e : Error}
    (h : (deserialize received).on p = (.error e, q)) : q = p := by
  rcases deserialize_on received with ⟨e', hrun⟩ | ⟨data, objects, -, -, hrun⟩
  · exact congrArg Prod.snd (h.symm.trans (hrun p))
  · exact nomatch congrArg Prod.fst (h.symm.trans (hrun p))

/-- **What is read does not depend on the parcel that it is read into.** -/
theorem deserialize_copy {received : Bytes} {p q : Parcel} (h : (deserialize received).on p = (.ok (), q)) (p' : Parcel) :
    ∃ q', (deserialize received).on p' = (.ok (), q') ∧ q.CopyOf q' := by
  rcases deserialize_on received with ⟨e, hrun⟩ | ⟨data, objects, hdata, hobjects, hrun⟩
  · exact nomatch congrArg Prod.fst (h.symm.trans (hrun p))
  · have hq : q = ⟨p.data.replace data, p.objects.replace objects⟩ := congrArg Prod.snd (h.symm.trans (hrun p))
    have hwritten : ∀ (a a' : Area) {bs : Bytes}, bs.length ≤ capacity → (a.replace bs).written = (a'.replace bs).written :=
      fun a a' bs hbs => (Area.written_replace hbs).trans (Area.written_replace hbs).symm
    subst hq
    exact ⟨_, hrun p', ⟨hwritten _ _ hdata, hwritten _ _ hobjects, rfl, rfl⟩⟩

end Parcel

namespace Binder

open Client

variable (b : Binder) (staging : Staging) (code flags : UInt32)

/-- The call of a transaction, as the mode of the binder has it. -/
def transactCall (request reply : Buffer) : Call :=
  match b.mode with
  | .legacy => Relay.mappedCall ⟨b.object, code, flags⟩ request reply
  | .combined => Relay.autoCall ⟨b.object, code, flags⟩ (b.placement request.bytes.length) request reply

/-- How much of the reply buffer counts: all of it, or what the first static tells if the buffers travel as statics. -/
def counted (requestSize : Nat) (statics : List StaticDescriptor) : Nat :=
  match b.mode, b.placement requestSize, statics with
  | .combined, .static, d :: _ => min d.size.toNat 0x400
  | _, _, _ => 0x400

variable {b}

theorem laidOut_transactCall {request reply : Buffer} (hrequest : request.bytes.length ≤ Parcel.stagingSize)
    (hreply : reply.bytes.length = Parcel.stagingSize) : (b.transactCall code flags request reply).LaidOut := by
  unfold transactCall
  cases b.mode with
  | legacy => exact laidOut_mappedCall _ request reply
  | combined =>
    exact laidOut_autoCall _ fun _ =>
      ⟨Nat.le_trans hrequest staging_le_static, Nat.le_trans (Nat.le_of_eq hreply) staging_le_static⟩

theorem dispatch_eq {request reply : Buffer} (hrequest : request.bytes.length ≤ Parcel.stagingSize)
    (hreply : reply.bytes.length = Parcel.stagingSize) :
    b.dispatch code flags request reply =
      .send b.relay.session ⟨(b.transactCall code flags request reply).message, [request, reply]⟩ fun answer =>
        .done (((b.transactCall code flags request reply).outcome answer).1.map fun response =>
            b.counted request.bytes.length response.sendStatics,
          reply.after ((b.transactCall code flags request reply).outcome answer).2) := by
  have hlay := laidOut_transactCall (b := b) code flags hrequest hreply
  revert hlay
  unfold dispatch transactCall counted
  cases b.mode with
  | legacy =>
    intro _
    show Relay.transact _ _ _ _ = _
    rw [transact_eq, hreply]
    rfl
  | combined =>
    intro hlay
    show Relay.transactAuto _ _ _ _ _ = _
    rw [transactAuto_eq hlay, hreply]
    have hcounted : ∀ (p : Placement) (response : Response), response.filledLength p Parcel.stagingSize =
        match TransactMode.combined, p, response.sendStatics with
        | .combined, .static, d :: _ => min d.size.toNat 0x400
        | _, _, _ => 0x400 := by
      rintro p ⟨_, _, _, _ | _⟩ <;> cases p <;> rfl
    simp only [hcounted]

theorem ensures_dispatched {request reply : Buffer} (hrequest : request.bytes.length ≤ Parcel.stagingSize)
    (hreply : reply.bytes.length = Parcel.stagingSize) {past : List Event}
    {Q : Except CallError Nat × Buffer → List Event → Prop}
    (h : ∀ answer, let c := b.transactCall code flags request reply
      Q ((c.outcome answer).1.map fun response => b.counted request.bytes.length response.sendStatics,
        reply.after (c.outcome answer).2) (past ++ [.sent b.relay.session ⟨c.message, [request, reply]⟩ answer])) :
    Ensures (fun _ => True) past (b.dispatch code flags request reply) Q := by
  rw [dispatch_eq code flags hrequest hreply]
  exact .send (fun _ => trivial) fun answer => .done (h answer)

/-- The buffer that a transaction stages its request in. -/
def stagedRequest (staging : Staging) (request : Parcel) : Buffer := ⟨staging.request, request.wire⟩

/-- The buffer that a transaction lends for the reply, full of zeros. -/
def blankReply (staging : Staging) : Buffer := ⟨staging.reply, zeros Parcel.stagingSize⟩

/-- The bytes that a transaction reads the reply parcel from. -/
def received (b : Binder) (staging : Staging) (request : Parcel) (answer : Answer) (response : Response) : Bytes :=
  ((blankReply staging).after answer.stores).bytes.take (b.counted request.wireSize response.sendStatics)

/-- What a transaction that was sent ends with, by what it was answered. -/
def ending (b : Binder) (staging : Staging) (request reply : Parcel) :
    Except SendError Answer → Except TransactError Unit × Parcel
  | .error e => (.error (.call (.send e)), reply)
  | .ok a =>
    match Response.ofMessage a.message 0 with
    | .error e => (.error (.call (.reply e)), reply)
    | .ok response =>
      let (read, reply) := (Parcel.deserialize (b.received staging request a response)).on reply
      (read.mapError .invalidReply, reply)

/-- **What is known of a transaction that was sent**, by what came of it. -/
structure Concluded (b : Binder) (staging : Staging) (code flags : UInt32) (request reply : Parcel)
    (r : Except TransactError Unit × Parcel) (events : List Event) : Prop where
  sent : ∃ m answer, ∃ notices : List Notice,
    events = .sent b.relay.session ⟨m, [stagedRequest staging request, blankReply staging]⟩ answer ::
      notices.map Event.noticed ∧
    (∃ asked, ServerRequest.ofMessage m = .ok asked ∧ asked.commandType = some .request ∧
      asked.command = some (match b.mode with | .combined => 3 | .legacy => 0) ∧
      12 ≤ asked.arguments.length ∧ ObjectServer.transactionOf asked.arguments = ⟨b.object, code, flags⟩) ∧
    (r.1 = .ok () → ∃ a response, answer = .ok a ∧ Response.ofMessage a.message 0 = .ok response ∧
      (Parcel.deserialize (b.received staging request a response)).on reply = (.ok (), r.2) ∧
      ∀ p, ∃ p', (Parcel.deserialize (b.received staging request a response)).on p = (.ok (), p') ∧ r.2.CopyOf p')
  failed : ∀ e, r.1 = .error e → r.2 = reply

theorem transact_idle (hb : b.state ≠ .initialized) (request reply : Parcel) :
    b.transact staging code flags request reply = .done (.error .notInitialized, reply) := by
  unfold transact
  rw [if_pos hb]
  rfl

theorem transact_large {request : Parcel} (hb : b.state = .initialized) (hlarge : Parcel.stagingSize < request.wireSize)
    (reply : Parcel) :
    b.transact staging code flags request reply = .done (.error (.invalidRequest .stagingTooSmall), reply) := by
  have hshort : (List.replicate Parcel.stagingSize (0 : UInt8)).length < request.wireSize := by
    rw [List.length_replicate]
    exact hlarge
  unfold transact
  rw [if_neg (not_not_intro hb), (Parcel.serialize_tooSmall_iff _).2 hshort]
  rfl

theorem transactCall_type (request reply : Buffer) :
    let c := b.transactCall code flags request reply
    c.type = .request ∧ c.command = (match b.mode with | .combined => 3 | .legacy => 0) ∧
      c.arguments = Relay.transactionArguments ⟨b.object, code, flags⟩ ∧ c.replySize = 0 := by
  unfold transactCall
  cases b.mode <;> exact ⟨rfl, rfl, rfl, rfl⟩

section ending

variable {staging : Staging} {request reply q : Parcel} {answer : Except SendError Answer} {a : Answer}

theorem ending_refused {e : ReplyError} (h : Response.ofMessage a.message 0 = .error e) :
    b.ending staging request reply (.ok a) = (.error (.call (.reply e)), reply) := by
  simp only [ending, h]

theorem ending_accepted {response : Response} {read : Except Parcel.Error Unit}
    (h : Response.ofMessage a.message 0 = .ok response)
    (hread : (Parcel.deserialize (b.received staging request a response)).on reply = (read, q)) :
    b.ending staging request reply (.ok a) = (read.mapError .invalidReply, q) := by
  simp only [ending, h, hread]

/-- **A transaction that fails after it was sent** leaves the reply parcel as it was. -/
theorem ending_error {e : TransactError} (h : (b.ending staging request reply answer).1 = .error e) :
    (b.ending staging request reply answer).2 = reply := by
  rcases answer with f | a
  · rfl
  cases hr : Response.ofMessage a.message 0 with
  | error f => rw [ending_refused hr]
  | ok response =>
    rcases hd : (Parcel.deserialize (b.received staging request a response)).on reply with ⟨f | ⟨⟨⟩⟩, q⟩
    · rw [ending_accepted hr hd]
      exact Parcel.deserialize_error hd
    · rw [ending_accepted hr hd] at h
      cases h

/-- **A transaction that succeeds** has read the reply parcel. -/
theorem ending_ok (h : (b.ending staging request reply answer).1 = .ok ()) :
    ∃ a response, answer = .ok a ∧ Response.ofMessage a.message 0 = .ok response ∧
      (Parcel.deserialize (b.received staging request a response)).on reply =
        (.ok (), (b.ending staging request reply answer).2) := by
  rcases answer with f | a
  · cases h
  cases hr : Response.ofMessage a.message 0 with
  | error f =>
    rw [ending_refused hr] at h
    cases h
  | ok response =>
    rcases hd : (Parcel.deserialize (b.received staging request a response)).on reply with ⟨f | ⟨⟨⟩⟩, q⟩
    · rw [ending_accepted hr hd] at h
      cases h
    · rw [ending_accepted hr hd]
      exact ⟨a, response, rfl, hr, hd⟩

end ending

/-- **A transaction that fits** is sent once, and what it ends with is read off the answer. -/
theorem ensures_ended {request : Parcel} (hb : b.state = .initialized)
    (hfits : request.wireSize ≤ Parcel.stagingSize) (reply : Parcel) :
    Ensures (fun _ => True) [] (b.transact staging code flags request reply) fun r events =>
      ∃ answer, ∃ notices : List Notice,
        events = .sent b.relay.session ⟨(b.transactCall code flags (stagedRequest staging request)
            (blankReply staging)).message, [stagedRequest staging request, blankReply staging]⟩ answer ::
          notices.map Event.noticed ∧
        r = b.ending staging request reply answer := by
  obtain ⟨staged, hserialize, hstaged⟩ := Parcel.serialize_zeros hfits
  have hrequest : (stagedRequest staging request).bytes.length = request.wireSize := Parcel.length_wire hfits
  have hblank : (blankReply staging).bytes.length = Parcel.stagingSize := Bytes.length_zeros _
  obtain ⟨-, -, -, hsize⟩ :=
    transactCall_type (b := b) code flags (stagedRequest staging request) (blankReply staging)
  unfold transact
  rw [if_neg (not_not_intro hb), hserialize]
  show Ensures _ _ (b.dispatch code flags ⟨_, staged.take _⟩ (blankReply staging) >>= _) _
  rw [hstaged]
  show Ensures _ _ (b.dispatch code flags (stagedRequest staging request) (blankReply staging) >>= _) _
  refine ensures_bind (ensures_dispatched code flags (hrequest ▸ hfits) hblank fun answer => ?_)
  rw [hrequest]
  generalize b.transactCall code flags (stagedRequest staging request) (blankReply staging) = c at hsize ⊢
  dsimp only
  cases answer with
  | error e => exact .done ⟨_, [], rfl, rfl⟩
  | ok a =>
    unfold Call.outcome
    dsimp only
    rw [hsize]
    cases hr : Response.ofMessage a.message 0 with
    | error e => exact .done ⟨.ok a, [], rfl, (ending_refused hr).symm⟩
    | ok response =>
      have hbytes : ((blankReply staging).after a.stores).bytes.take
          (b.counted request.wireSize response.sendStatics) = b.received staging request a response := rfl
      dsimp only [Attempt.mapError_ok, Except.map]
      rw [hbytes]
      rcases hd : (Parcel.deserialize (b.received staging request a response)).on reply with ⟨e | _, p⟩
      · exact .note trivial (.done ⟨.ok a, [_], rfl, (ending_accepted hr hd).symm⟩)
      · exact .done ⟨.ok a, [], rfl, (ending_accepted hr hd).symm⟩

theorem ensures_concluded {request : Parcel} (hb : b.state = .initialized)
    (hfits : request.wireSize ≤ Parcel.stagingSize) (reply : Parcel) :
    Ensures (fun _ => True) [] (b.transact staging code flags request reply)
      (Concluded b staging code flags request reply) := by
  have hrequest : (stagedRequest staging request).bytes.length = request.wireSize := Parcel.length_wire hfits
  obtain ⟨htype, hcommand, hargs, -⟩ :=
    transactCall_type (b := b) code flags (stagedRequest staging request) (blankReply staging)
  have hblank : (blankReply staging).bytes.length = Parcel.stagingSize := Bytes.length_zeros _
  have hlay := laidOut_transactCall (b := b) code flags (hrequest ▸ hfits) hblank
  have hasked : ∃ asked, ServerRequest.ofMessage
        (b.transactCall code flags (stagedRequest staging request) (blankReply staging)).message = .ok asked ∧
      asked.commandType = some .request ∧ asked.command = some (match b.mode with | .combined => 3 | .legacy => 0) ∧
      12 ≤ asked.arguments.length ∧ ObjectServer.transactionOf asked.arguments = ⟨b.object, code, flags⟩ := by
    obtain ⟨asked, hread, ht, hc, ha, -⟩ := Call.layOut_spec (by rw [htype]; exact nofun) hlay
    rw [hargs] at ha
    exact ⟨asked, hread, ht.trans (congrArg some htype), hc.trans (congrArg some hcommand),
      ObjectServer.transactionOf_arguments ha⟩
  refine (ensures_ended staging code flags hb hfits reply).imp ?_
  rintro _ _ ⟨answer, notices, rfl, rfl⟩
  refine ⟨⟨_, answer, notices, rfl, hasked, fun hok => ?_⟩, fun e => ending_error⟩
  obtain ⟨a, response, rfl, hresponse, hd⟩ := ending_ok hok
  exact ⟨a, response, rfl, hresponse, hd, Parcel.deserialize_copy hd⟩

/-- **What a transaction does, and what it leaves alone.**  Whatever the binder, the parcels and the transport: it closes
no handle, and where it fails the reply parcel is as it was.  A binder that is not initialized and a request that does
not fit the staging buffer send nothing.  Any other transaction sends one message, on the relay session and with the
command of the binder's mode; it succeeds only if the send does and the reply is accepted, and then the reply parcel is
what is read from the part of the reply buffer that counts. -/
theorem transact_effects {σ : Type} (t : Transport σ) (s : σ) (b : Binder) (staging : Staging) (code flags : UInt32)
    (request reply : Parcel) :
    let run := (b.transact staging code flags request reply).run t s
    (∀ handle outcome, .closed handle outcome ∉ run.events) ∧
      (∀ e, run.value.1 = .error e → run.value.2 = reply) ∧
      if b.state ≠ .initialized then run.value.1 = .error .notInitialized ∧ run.events = []
      else if 0x400 < 16 + request.data.extent + request.objects.extent then
        run.value.1 = .error (.invalidRequest .stagingTooSmall) ∧ run.events = []
      else Concluded b staging code flags request reply run.value run.events := by
  intro run
  have hrun : run = (b.transact staging code flags request reply).run t s := rfl
  by_cases hb : b.state ≠ .initialized
  · rw [transact_idle staging code flags hb] at hrun
    rw [hrun, if_pos hb]
    exact ⟨fun _ _ => List.not_mem_nil, fun _ _ => rfl, rfl, rfl⟩
  rw [if_neg hb]
  have hb := Decidable.not_not.1 hb
  by_cases hlarge : 0x400 < 16 + request.data.extent + request.objects.extent
  · rw [transact_large staging code flags hb hlarge] at hrun
    rw [hrun, if_pos hlarge]
    exact ⟨fun _ _ => List.not_mem_nil, fun _ _ => rfl, rfl, rfl⟩
  rw [if_neg hlarge]
  have h : Concluded b staging code flags request reply run.value run.events :=
    (run_of_ensures t trivial (ensures_concluded staging code flags hb (Nat.le_of_not_lt hlarge) reply) s).2
  refine ⟨fun handle outcome hmem => ?_, h.failed, h⟩
  obtain ⟨m, answer, notices, hevents, -⟩ := h.sent
  rw [hevents, List.mem_cons, List.mem_map] at hmem
  rcases hmem with heq | ⟨notice, -, heq⟩ <;> cases heq

/-- The server fills the reply buffer and then tells of fifteen bytes, which is less than a parcel: the reply parcel stays
as it was, with the number in it that was read halfway. -/
theorem transact_effects_short :
    let t : Transport Unit := {
      send := fun _ e _ => (.ok ⟨((Reply.write { sendStatics := [⟨0, 15⟩] }).on e.message).2,
        [⟨0x2000, Parcel.empty.wire⟩]⟩, ())
      close := fun _ _ => (.ok (), ()) }
    let b := (create ⟨⟨1⟩, 0⟩ 7).initialized ⟨.ofParts 3 0 0, none, false⟩ 9 0x1000
    let reply := (Parcel.readUInt32.on ((Parcel.writeUInt64 5).on .empty).2).2
    let run := (b.transact ⟨0x1000, 0x2000⟩ 4 0 .empty reply).run t ()
    run.value.1 = .error (.invalidReply .replyOutOfBounds) ∧ run.value.2 = reply ∧ reply.data.cursor = 4 ∧
      Concluded b ⟨0x1000, 0x2000⟩ 4 0 .empty reply run.value run.events := by
  intro t b reply
  have he : ((b.transact ⟨0x1000, 0x2000⟩ 4 0 .empty reply).run t ()).value.1 =
      .error (.invalidReply .replyOutOfBounds) := Attempt.eq_error (by decide +kernel)
  obtain ⟨-, hkept, h⟩ := transact_effects t () b ⟨0x1000, 0x2000⟩ 4 0 .empty reply
  rw [if_neg (by decide), if_neg (by decide)] at h
  have hcursor : reply.data.cursor = 4 := by decide +kernel
  exact ⟨he, hkept _ he, hcursor, h⟩

end Binder
end HorizonIpc
