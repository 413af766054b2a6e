import HorizonIpc.Proofs.Binder.Agreement
import HorizonIpc.Proofs.Binder.Balance
import HorizonIpc.Proofs.Command.RoundTrip
/-!
# Proofs.Binder.Commands — what the client's commands put on the wire

Seven commands go out to a session: a registration, a lookup, the question for the pointer buffer, a change of a
reference count, the question for a native handle, and a transaction in either form.  Each is one call with a request
that can always be laid out, except that statics name no more than 64 KiB.  A server reads in the message the command
that was given, with its arguments and with the buffers where they are (`commands_arrive`).
-/
namespace HorizonIpc

open Builder (maxStaticSize)

/-! ## the calls -/

namespace Service

/-- The question for the size of a session's pointer buffer. -/
def pointerBufferCall : Call := { type := .control, command := pointerBufferSizeCommand, replySize := 2 }

theorem laidOut_pointerBufferCall : pointerBufferCall.LaidOut :=
  Call.laidOut_of_small rfl Binder.small_empty (by decide)

theorem queryPointerBufferSize_eq (session : SessionHandle) :
    queryPointerBufferSize session = .send session ⟨pointerBufferCall.message, []⟩ fun answer =>
      .done ((pointerBufferCall.outcome answer).1.map fun response => Bytes.toUInt16 response.data) := by
  show (pointerBufferCall.ask session >>= _) = _
  rw [Call.ask_of_laidOut laidOut_pointerBufferCall]
  rfl

end Service

namespace NameService

/-- The registration of a client; the kernel puts its process id in. -/
def registerCall : Call := { command := registerCommand, arguments := Bytes.ofUInt64 0, additions := [.pid] }

def lookupCall (name : ServiceName) : Call := { command := lookupCommand, arguments := Bytes.ofUInt64 name.key }

/-- What a client makes of the reply to a lookup. -/
def foundSession : Except CallError Response → Except FetchError SessionHandle
  | .error e => .error (.call e)
  | .ok response =>
    match response.moveHandles with
    | handle :: _ => .ok ⟨handle⟩
    | [] => .error .missingHandle

theorem foundSession_ne_build (c : Call) (answer : Except SendError Answer) (e : BuildError) :
    foundSession (c.outcome answer).1 ≠ .error (.call (.build e)) := by
  have hne := c.outcome_ne_build answer e
  revert hne
  rcases (c.outcome answer).1 with failure | ⟨_, _, _ | _, _⟩ <;> intro hne
  · exact fun heq => hne (congrArg Except.error (FetchError.call.inj (Except.error.inj heq)))
  · exact nofun
  · exact nofun

/-- An answer to a lookup that brings a session: the first handle that its reply moves. -/
def Brings (answer : Except SendError Answer) (session : SessionHandle) : Prop :=
  ∃ a response rest, answer = .ok a ∧ Response.ofMessage a.message 0 = .ok response ∧
    response.moveHandles = session.raw :: rest

/-- **How a lookup fails** on its answer: as a call, or for want of a handle in a reply that is accepted. -/
inductive Misses : Except SendError Answer → FetchError → Prop
  | call {answer : Except SendError Answer} {e : CallError} (h : Call.Fails 0 answer e) : Misses answer (.call e)
  | missing {answer : Answer} {response : Response} (h : Response.ofMessage answer.message 0 = .ok response)
      (hnone : response.moveHandles = []) : Misses (.ok answer) .missingHandle

theorem foundSession_eq_ok_iff {answer : Except SendError Answer} {name : ServiceName} {session : SessionHandle} :
    foundSession ((lookupCall name).outcome answer).1 = .ok session ↔ Brings answer session := by
  constructor
  · intro h
    cases ho : ((lookupCall name).outcome answer).1 with
    | error e =>
      rw [ho] at h
      cases h
    | ok response =>
      rw [ho] at h
      obtain ⟨a, rfl, hr⟩ := Call.ofMessage_of_outcome ho
      obtain ⟨data, copyHandles, _ | ⟨handle, rest⟩, sendStatics⟩ := response
      · cases h
      · cases h
        exact ⟨a, _, rest, rfl, hr, rfl⟩
  · rintro ⟨a, response, rest, rfl, hr, hmoved⟩
    rw [Call.outcome_of_ofMessage hr]
    simp only [foundSession, hmoved]

theorem foundSession_eq_error_iff {answer : Except SendError Answer} {name : ServiceName} {e : FetchError} :
    foundSession ((lookupCall name).outcome answer).1 = .error e ↔ Misses answer e := by
  constructor
  · intro h
    cases ho : ((lookupCall name).outcome answer).1 with
    | error failure =>
      rw [ho] at h
      cases h
      exact .call (Call.outcome_eq_error_iff.1 ho)
    | ok response =>
      rw [ho] at h
      obtain ⟨a, rfl, hr⟩ := Call.ofMessage_of_outcome ho
      obtain ⟨data, copyHandles, _ | ⟨handle, rest⟩, sendStatics⟩ := response
      · cases h
        exact .missing hr rfl
      · cases h
  · intro h
    cases h with
    | call hcall =>
      have ho : ((lookupCall name).outcome answer).1 = _ := Call.outcome_eq_error_iff.2 hcall
      rw [ho]
      rfl
    | missing hr hnone =>
      rw [Call.outcome_of_ofMessage hr]
      simp only [foundSession, hnone]

/-- There is one registration, so that its message can be computed. -/
theorem laidOut_registerCall : registerCall.LaidOut := Attempt.on_eq_ok (by decide +kernel)

theorem laidOut_lookupCall (name : ServiceName) : (lookupCall name).LaidOut :=
  Call.laidOut_of_small rfl Binder.small_empty (show _ ≤ 48 by simp [lookupCall])

theorem register_eq (n : NameService) :
    n.register = .send n.service.session ⟨registerCall.message, []⟩ fun answer =>
      .done ((registerCall.outcome answer).1.map fun _ => ()) := by
  show (registerCall.ask n.service.session >>= _) = _
  rw [Call.ask_of_laidOut laidOut_registerCall]
  rfl

theorem lookup_eq (n : NameService) (name : ServiceName) :
    n.lookup name = .send n.service.session ⟨(lookupCall name).message, []⟩ fun answer =>
      .done (foundSession ((lookupCall name).outcome answer).1) := by
  show ((lookupCall name).ask n.service.session >>= _) = _
  rw [Call.ask_of_laidOut (laidOut_lookupCall name)]
  show Client.send _ _ _ = _
  congr 1
  funext answer
  show Client.bind (.done ((lookupCall name).outcome answer).1) _ = _
  rcases ((lookupCall name).outcome answer).1 with _ | ⟨_, _, _ | _, _⟩ <;> rfl

end NameService
namespace Binder

/-- What a client makes of the reply to the question for a native handle. -/
def foundHandle : Except CallError Response → Except FetchError UInt32
  | .error e => .error (.call e)
  | .ok response =>
    match response.copyHandles with
    | handle :: _ => .ok handle
    | [] => .error .missingHandle

theorem foundHandle_ne_build (c : Call) (answer : Except SendError Answer) (e : BuildError) :
    foundHandle (c.outcome answer).1 ≠ .error (.call (.build e)) := by
  have hne := c.outcome_ne_build answer e
  revert hne
  rcases (c.outcome answer).1 with failure | ⟨_, _ | _, _, _⟩ <;> intro hne
  · exact fun heq => hne (congrArg Except.error (FetchError.call.inj (Except.error.inj heq)))
  · exact nofun
  · exact nofun

/-- The words of a change of a reference count are read back, the signs of negative ones included. -/
theorem adjustCall_fields {object amount : Int32} {kind : RefKind} {arguments : Bytes}
    (h : (adjustCall object amount kind).arguments <+: arguments) :
    12 ≤ arguments.length ∧ (Bytes.toUInt32 arguments).toInt32 = object ∧
      (Bytes.toUInt32 (arguments.drop 4)).toInt32 = amount ∧
      (Bytes.toUInt32 (arguments.drop 8)).toInt32 = kind.code := by
  refine ⟨h.length_le, ?_⟩
  obtain ⟨rest, rfl⟩ := h
  obtain ⟨hobject, hamount, hkind⟩ := Bytes.threeWords object.toUInt32 amount.toUInt32 kind.code.toUInt32 rest
  exact ⟨congrArg UInt32.toInt32 hobject, congrArg UInt32.toInt32 hamount, congrArg UInt32.toInt32 hkind⟩

theorem handleCall_fields {object : Int32} {selector : UInt32} {arguments : Bytes}
    (h : (handleCall object selector).arguments <+: arguments) :
    8 ≤ arguments.length ∧ (Bytes.toUInt32 arguments).toInt32 = object ∧
      Bytes.toUInt32 (arguments.drop 4) = selector := by
  refine ⟨h.length_le, ?_⟩
  obtain ⟨rest, rfl⟩ := h
  have hwords : (handleCall object selector).arguments ++ rest =
      Bytes.ofUInt32 object.toUInt32 ++ (Bytes.ofUInt32 selector ++ rest) := List.append_assoc _ _ _
  rw [hwords, Bytes.drop_ofUInt32, Bytes.toUInt32_ofUInt32, Bytes.toUInt32_ofUInt32]
  exact ⟨rfl, rfl⟩

theorem laidOut_adjustCall (object amount : Int32) (kind : RefKind) : (adjustCall object amount kind).LaidOut :=
  Call.laidOut_of_small rfl small_empty (show _ ≤ 48 by simp [adjustCall, Tally.length_signed])

theorem laidOut_handleCall (object : Int32) (selector : UInt32) : (handleCall object selector).LaidOut :=
  Call.laidOut_of_small rfl small_empty (show _ ≤ 48 by simp [handleCall, Tally.length_signed])

theorem adjust_eq (session : SessionHandle) (object amount : Int32) (kind : RefKind) :
    Relay.adjust session object amount kind =
      .send session ⟨(adjustCall object amount kind).message, []⟩ fun answer =>
        .done (((adjustCall object amount kind).outcome answer).1.map fun _ => ()) := by
  show ((adjustCall object amount kind).ask session >>= _) = _
  rw [Call.ask_of_laidOut (laidOut_adjustCall object amount kind)]
  rfl

theorem nativeHandle_eq (session : SessionHandle) (object : Int32) (selector : UInt32) :
    Relay.nativeHandle session object selector =
      .send session ⟨(handleCall object selector).message, []⟩ fun answer =>
        .done (foundHandle ((handleCall object selector).outcome answer).1) := by
  show ((handleCall object selector).ask session >>= _) = _
  rw [Call.ask_of_laidOut (laidOut_handleCall object selector)]
  show Client.send _ _ _ = _
  congr 1
  funext answer
  show Client.bind (.done ((handleCall object selector).outcome answer).1) _ = _
  rcases ((handleCall object selector).outcome answer).1 with _ | ⟨_, _ | _, _, _⟩ <;> rfl

/-- What acquiring makes of a native handle: zero is none. -/
def checkedHandle : Except FetchError UInt32 → Except InitError UInt32
  | .error e => .error (.nativeHandle e)
  | .ok handle => if handle = SessionHandle.invalid then .error .invalidNativeHandle else .ok handle

theorem fetchHandle_eq (b : Binder) (selector : UInt32) :
    b.fetchHandle selector = .send b.relay.session ⟨(handleCall b.object selector).message, []⟩ fun answer =>
      .done (checkedHandle (foundHandle ((handleCall b.object selector).outcome answer).1)) := by
  unfold fetchHandle
  rw [nativeHandle_eq]
  show Client.send _ _ _ = _
  congr 1
  funext answer
  show Client.bind (.done (foundHandle ((handleCall b.object selector).outcome answer).1)) _ = _
  cases foundHandle ((handleCall b.object selector).outcome answer).1 <;> rfl

theorem laidOut_mappedCall (t : Transaction) (request reply : Buffer) : (Relay.mappedCall t request reply).LaidOut := by
  obtain ⟨⟨m, hm⟩, -⟩ := mappedCall_spec t request reply
  exact Call.laidOut_of_on hm

theorem laidOut_autoCall (t : Transaction) {p : Placement} {request reply : Buffer}
    (h : p = .static → request.bytes.length ≤ maxStaticSize ∧ reply.bytes.length ≤ maxStaticSize) :
    (Relay.autoCall t p request reply).LaidOut := by
  obtain ⟨⟨m, hm⟩, -⟩ := autoCall_spec t p h
  exact Call.laidOut_of_on hm

theorem transact_eq (session : SessionHandle) (t : Transaction) (request reply : Buffer) :
    Relay.transact session t request reply =
      .send session ⟨(Relay.mappedCall t request reply).message, [request, reply]⟩ fun answer =>
        .done ((((Relay.mappedCall t request reply).outcome answer).1.map fun _ => reply.bytes.length),
          reply.after ((Relay.mappedCall t request reply).outcome answer).2) := by
  unfold Relay.transact
  rw [Call.exchange_of_laidOut (laidOut_mappedCall t request reply)]
  rfl

theorem transactAuto_eq {t : Transaction} {p : Placement} {request reply : Buffer}
    (h : (Relay.autoCall t p request reply).LaidOut) (session : SessionHandle) :
    Relay.transactAuto session t p request reply =
      .send session ⟨(Relay.autoCall t p request reply).message, [request, reply]⟩ fun answer =>
        .done ((((Relay.autoCall t p request reply).outcome answer).1.map fun response =>
            response.filledLength p reply.bytes.length),
          reply.after ((Relay.autoCall t p request reply).outcome answer).2) := by
  unfold Relay.transactAuto
  rw [Call.exchange_of_laidOut h]
  rfl

/-- **A buffer that a static cannot name** is refused before anything is sent. -/
theorem transactAuto_of_large (session : SessionHandle) (t : Transaction) {request reply : Buffer}
    (h : maxStaticSize < request.bytes.length ∨ maxStaticSize < reply.bytes.length) :
    Relay.transactAuto session t .static request reply = .done (.error (.build .staticTooLarge), reply) := by
  have hcollect : Builder.collect (Relay.autoCall t .static request reply).additions = .error .staticTooLarge :=
    Builder.collect_of_large h
  have hlay : (Relay.autoCall t .static request reply).layOut.on .zero = (.error .staticTooLarge, .zero) := by
    unfold Call.layOut
    rw [Attempt.on_bind, Attempt.on_ofExcept, hcollect]
  unfold Relay.transactAuto
  rw [Call.exchange_of_error hlay]
  rfl

end Binder

/-! ## what a server reads -/

/-- **A view names the items of a builder**: it shows them, and mapped buffers with their whole lengths. -/
structure View.Names (v : View) (b : Builder) : Prop extends v.Shows b where
  sendSizes : v.sendBuffers.map (·.size) = b.sendBuffers.map (·.region.length)
  recvSizes : v.recvBuffers.map (·.size) = b.recvBuffers.map (·.region.length)

/-- **A message asks for a command**: a server reads its type and its number in the message, arguments with the given
fields, and the items named. -/
def Message.Asks (m : Message) (type : CommandType) (command : UInt32) (fields : Bytes → Prop) (items : Builder) : Prop :=
  ∃ r, ServerRequest.ofMessage m = .ok r ∧ r.commandType = some type ∧ r.command = some command ∧
    fields r.arguments ∧ r.view.Names items

/-- **A client sends one message**, on the session and with the buffers lent, whatever answers it; and what it ends with
is `Built`. -/
def Client.SendsOne {α : Type} (x : Client α) (session : SessionHandle) (lent : List Buffer) (Asks : Message → Prop)
    (Built : α → Prop) : Prop :=
  ∃ m, Asks m ∧ ∀ {σ : Type} (t : Transport σ) (s : σ),
    Built (x.run t s).value ∧ ∃ answer, (x.run t s).events = [.sent session ⟨m, lent⟩ answer]

namespace View

variable {v : View} {b : Builder}

theorem sizes_of_fields {ds : List BufferDescriptor} {ms : List Mapping}
    (h : ds.map (fun d => (d.mode, d.size, d.address.toNat)) =
      ms.map fun m => (m.mode, m.region.length % 2 ^ 36, m.region.address.toNat % 2 ^ 58))
    (hlen : ∀ m ∈ ms, m.region.length < 2 ^ 36) : ds.map (·.size) = ms.map (·.region.length) := by
  have hsizes := congrArg (List.map fun f => f.2.1) h
  rw [List.map_map, List.map_map] at hsizes
  refine hsizes.trans (List.map_congr_left fun m hm => ?_)
  exact Nat.mod_eq_of_lt (hlen m hm)

theorem Shows.names (h : v.Shows b) (hsend : ∀ m ∈ b.sendBuffers, m.region.length < 2 ^ 36)
    (hrecv : ∀ m ∈ b.recvBuffers, m.region.length < 2 ^ 36) : v.Names b :=
  { h with
    sendSizes := sizes_of_fields h.sendBuffers hsend
    recvSizes := sizes_of_fields h.recvBuffers hrecv }

end View

namespace Call

variable {c : Call}

theorem asks_of_laidOut {fields : Bytes → Prop} {items : Builder} (h : c.LaidOut) (ht : c.type ≠ .close)
    (hitems : Builder.itemsOf c.additions = items) (hfields : ∀ arguments, c.arguments <+: arguments → fields arguments)
    (hlen : ∀ m ∈ items.sendBuffers ++ items.recvBuffers, m.region.length < 2 ^ 36) :
    c.message.Asks c.type c.command fields items := by
  obtain ⟨r, hread, htype, hcommand, hargs, hshows⟩ := layOut_spec ht h
  rw [hitems] at hshows
  exact ⟨r, hread, htype, hcommand, hfields _ hargs,
    hshows.names (fun m hm => hlen m (List.mem_append_left _ hm)) fun m hm => hlen m (List.mem_append_right _ hm)⟩

/-- **A client that makes one call sends one message**, and what it makes of the answer is what it ends with. -/
theorem sendsOne_of_eq {α : Type} {x : Client α} {session : SessionHandle} {ends : Except SendError Answer → α}
    {Asks : Message → Prop} {Built : α → Prop} (hask : Asks c.message) (hbuilt : ∀ answer, Built (ends answer))
    (hx : x = .send session ⟨c.message, c.buffers⟩ fun answer => .done (ends answer)) :
    x.SendsOne session c.buffers Asks Built := by
  subst hx
  exact ⟨c.message, hask, fun t s => ⟨hbuilt _, _, rfl⟩⟩

/-- Of the failures of a call that was sent none is a failure to build it, whatever is made of its response. -/
theorem map_outcome_ne_build {α : Type} (c : Call) (f : Response → α) (answer : Except SendError Answer)
    (e : BuildError) : (c.outcome answer).1.map f ≠ .error (.build e) := by
  have hne := c.outcome_ne_build answer e
  cases h : (c.outcome answer).1 with
  | ok _ => exact nofun
  | error e' =>
    rw [h] at hne
    exact fun heq => hne (congrArg Except.error (Except.error.inj heq))

end Call

namespace Binder

/-- **Every command arrives as it was given.**  Whatever answers, a registration, a lookup, the question for the pointer
buffer, a change of a reference count, the question for a native handle and a transaction in mapped buffers send one
message each and do not fail to build it; a server reads their command, their arguments, of which no byte is missing,
and their buffers in it.  So does a transaction whose buffers travel either way, unless one of them is to be a static
and is larger than a static names: then it is refused, and nothing is sent. -/
theorem commands_arrive (n : NameService) (name : ServiceName) (session : SessionHandle) (object amount : Int32)
    (kind : RefKind) (selector : UInt32) (t : Transaction) (p : Placement) (request reply : Buffer)
    (hrequest : request.bytes.length < 2 ^ 36) (hreply : reply.bytes.length < 2 ^ 36) :
    n.register.SendsOne n.service.session []
        (·.Asks .request 0 (fun arguments => 8 ≤ arguments.length ∧ Bytes.toUInt64 arguments = 0) { sendPid := true })
        (fun r => ∀ e, r ≠ .error (.build e)) ∧
      (n.lookup name).SendsOne n.service.session []
        (·.Asks .request 1 (fun arguments => 8 ≤ arguments.length ∧ Bytes.toUInt64 arguments = name.key) {})
        (fun r => ∀ e, r ≠ .error (.call (.build e))) ∧
      (Service.queryPointerBufferSize session).SendsOne session [] (·.Asks .control 3 (fun _ => True) {})
        (fun r => ∀ e, r ≠ .error (.build e)) ∧
      (Relay.adjust session object amount kind).SendsOne session []
        (·.Asks .request 1 (fun arguments => 12 ≤ arguments.length ∧ (Bytes.toUInt32 arguments).toInt32 = object ∧
          (Bytes.toUInt32 (arguments.drop 4)).toInt32 = amount ∧
          (Bytes.toUInt32 (arguments.drop 8)).toInt32 = kind.code) {})
        (fun r => ∀ e, r ≠ .error (.build e)) ∧
      (Relay.nativeHandle session object selector).SendsOne session []
        (·.Asks .request 2 (fun arguments => 8 ≤ arguments.length ∧ (Bytes.toUInt32 arguments).toInt32 = object ∧
          Bytes.toUInt32 (arguments.drop 4) = selector) {})
        (fun r => ∀ e, r ≠ .error (.call (.build e))) ∧
      (Relay.transact session t request reply).SendsOne session [request, reply]
        (·.Asks .request 0 (fun arguments => 12 ≤ arguments.length ∧ ObjectServer.transactionOf arguments = t)
          { sendBuffers := [⟨request.region, .normal⟩], recvBuffers := [⟨reply.region, .normal⟩] })
        (fun r => ∀ e, r.1 ≠ .error (.build e)) ∧
      if p = .static ∧ (0xFFFF < request.bytes.length ∨ 0xFFFF < reply.bytes.length) then
        ∀ {σ : Type} (transport : Transport σ) (s : σ),
          let run := (Relay.transactAuto session t p request reply).run transport s
          run.value = (.error (.build .staticTooLarge), reply) ∧ run.events = []
      else
        (Relay.transactAuto session t p request reply).SendsOne session [request, reply]
          (·.Asks .request 3 (fun arguments => 12 ≤ arguments.length ∧ ObjectServer.transactionOf arguments = t)
            (if p = .static then
              { sendStatics := [request.region], sendBuffers := [⟨.empty, .normal⟩],
                recvStatics := [reply.region], recvBuffers := [⟨.empty, .normal⟩] }
            else
              { sendStatics := [.empty], sendBuffers := [⟨request.region, .normal⟩],
                recvStatics := [.empty], recvBuffers := [⟨reply.region, .normal⟩] }))
          (fun r => ∀ e, r.1 ≠ .error (.build e)) := by
  have hpair : ∀ {r r' : Region}, r.length < 2 ^ 36 → r'.length < 2 ^ 36 →
      ∀ m ∈ [(⟨r, .normal⟩ : Mapping), ⟨r', .normal⟩], m.region.length < 2 ^ 36 := by
    intro r r' hr hr' m hm
    rcases List.mem_cons.1 hm with rfl | hm
    · exact hr
    · rw [List.mem_singleton.1 hm]
      exact hr'
  refine ⟨?register, ?lookup, ?query, ?adjust, ?handle, ?mapped, ?auto⟩
  case register =>
    refine Call.sendsOne_of_eq ?_ (NameService.registerCall.map_outcome_ne_build _) n.register_eq
    exact Call.asks_of_laidOut NameService.laidOut_registerCall nofun rfl (fun _ => Bytes.toUInt64_of_prefix) nofun
  case lookup =>
    refine Call.sendsOne_of_eq ?_ (NameService.foundSession_ne_build (NameService.lookupCall name)) (n.lookup_eq name)
    exact Call.asks_of_laidOut (NameService.laidOut_lookupCall name) nofun rfl (fun _ => Bytes.toUInt64_of_prefix) nofun
  case query =>
    refine Call.sendsOne_of_eq ?_ (Service.pointerBufferCall.map_outcome_ne_build _)
      (Service.queryPointerBufferSize_eq session)
    exact Call.asks_of_laidOut Service.laidOut_pointerBufferCall nofun rfl (fun _ _ => trivial) nofun
  case adjust =>
    refine Call.sendsOne_of_eq ?_ ((adjustCall object amount kind).map_outcome_ne_build _)
      (adjust_eq session object amount kind)
    exact Call.asks_of_laidOut (laidOut_adjustCall object amount kind) nofun rfl (fun _ => adjustCall_fields) nofun
  case handle =>
    refine Call.sendsOne_of_eq ?_ (foundHandle_ne_build (handleCall object selector)) (nativeHandle_eq session object selector)
    exact Call.asks_of_laidOut (laidOut_handleCall object selector) nofun rfl (fun _ => handleCall_fields) nofun
  case mapped =>
    refine Call.sendsOne_of_eq ?_ ((Relay.mappedCall t request reply).map_outcome_ne_build _)
      (transact_eq session t request reply)
    exact Call.asks_of_laidOut (laidOut_mappedCall t request reply) nofun rfl
      (fun _ => ObjectServer.transactionOf_arguments) (hpair hrequest hreply)
  case auto =>
    by_cases hlarge : p = .static ∧ (0xFFFF < request.bytes.length ∨ 0xFFFF < reply.bytes.length)
    · rw [if_pos hlarge]
      obtain ⟨rfl, hsize⟩ := hlarge
      intro σ transport s
      rw [transactAuto_of_large session t hsize]
      exact ⟨rfl, rfl⟩
    · rw [if_neg hlarge]
      have hlay : (Relay.autoCall t p request reply).LaidOut := by
        refine laidOut_autoCall t fun hp => ?_
        have hsmall := not_or.1 fun hsize => hlarge ⟨hp, hsize⟩
        exact ⟨Nat.le_of_not_lt hsmall.1, Nat.le_of_not_lt hsmall.2⟩
      refine Call.sendsOne_of_eq ?_ ((Relay.autoCall t p request reply).map_outcome_ne_build _)
        (transactAuto_eq hlay session)
      refine Call.asks_of_laidOut hlay nofun ?_ (fun _ => ObjectServer.transactionOf_arguments) ?_
      · cases p <;> rfl
      · cases p with
        | static => exact hpair (Nat.two_pow_pos 36) (Nat.two_pow_pos 36)
        | mapped => exact hpair hrequest hreply

/-- A decrease for a negative object keeps its signs, and a static of 64 KiB is one byte too long. -/
theorem commands_arrive_signed :
    let request : Buffer := ⟨0x1000, [1, 2, 3]⟩
    let reply : Buffer := ⟨0x2000, Bytes.zeros 0x10000⟩
    request.bytes.length < 2 ^ 36 ∧ reply.bytes.length < 2 ^ 36 ∧
      (Relay.adjust ⟨9⟩ (-7) (-1) .strong).SendsOne ⟨9⟩ []
        (·.Asks .request 1 (fun arguments => 12 ≤ arguments.length ∧ (Bytes.toUInt32 arguments).toInt32 = -7 ∧
          (Bytes.toUInt32 (arguments.drop 4)).toInt32 = -1 ∧ (Bytes.toUInt32 (arguments.drop 8)).toInt32 = 1) {})
        (fun r => ∀ e, r ≠ .error (.build e)) ∧
      ∀ {σ : Type} (transport : Transport σ) (s : σ),
        let run := (Relay.transactAuto ⟨9⟩ ⟨-7, 1, 0⟩ .static request reply).run transport s
        run.value = (.error (.build .staticTooLarge), reply) ∧ run.events = [] := by
  intro request reply
  have hrequest : request.bytes.length < 2 ^ 36 := by decide
  have hreply : reply.bytes.length = 0x10000 := Bytes.length_zeros _
  have hlen : reply.bytes.length < 2 ^ 36 := by
    rw [hreply]
    decide
  have h := commands_arrive ⟨⟨9⟩, 0⟩ .empty ⟨9⟩ (-7) (-1) .strong 0 ⟨-7, 1, 0⟩ .static request reply hrequest hlen
  rw [if_pos ⟨rfl, .inr (by rw [hreply]; decide)⟩] at h
  exact ⟨hrequest, hlen, h.2.2.2.1, h.2.2.2.2.2.2⟩

end Binder
end HorizonIpc
