import HorizonIpc.Binder.Lifecycle
import HorizonIpc.Binder.Transact
import HorizonIpc.Proofs.Binder.Carriage
import HorizonIpc.Proofs.Command.ReplyRoundTrip
import HorizonIpc.Proofs.Parcel.Wire
import HorizonIpc.Proofs.Session.Call
/-!
# Proofs.Binder.Agreement — the carriage of a transaction does not matter

A transaction travels in one of three ways: in mapped buffers of the one command, or as statics or mapped buffers of the
other; and the client learns in different ways how long the reply is.  An `ObjectServer` answers transactions by a
function, and against any such server all ways come to the same (`run_transact`): the function is applied once, to what
the client sent, and its answer is what the reply parcel holds.
-/
namespace HorizonIpc

open Bytes (zeros)

/-- A relay server whose objects answer transactions by a function. -/
structure ObjectServer where
  answer : Transaction → Bytes → Parcel
  /-- Every answer fits the client's buffer. -/
  fits : ∀ t request, (answer t request).wireSize ≤ Parcel.stagingSize
  origin : UInt64

namespace ObjectServer

def transactionOf (arguments : Bytes) : Transaction where
  object := (Bytes.toUInt32 arguments).toInt32
  code := Bytes.toUInt32 (arguments.drop 4)
  flags := Bytes.toUInt32 (arguments.drop 8)

/-- The reply to a request: success, and if the answer went into the receive list also a static that tells its
length. -/
def replyTo (server : ObjectServer) (v : View) (answer : Parcel) : Reply :=
  { sendStatics := if v.usesRecvList then [⟨server.origin, answer.wireSize⟩] else [] }

/-- Answers a transaction in the buffers that the request names, and records what the function was applied to.  Anything
else is refused. -/
def serve (server : ObjectServer) (e : Exchange) (log : List (Transaction × Bytes)) :
    Except SendError Answer × List (Transaction × Bytes) :=
  match ServerRequest.ofMessage e.message with
  | .error _ => (.error .sessionClosed, log)
  | .ok r =>
    if r.commandType = some .request ∧
        (r.command = some Relay.transactCommand ∨ r.command = some Relay.transactAutoCommand) then
      match Script.input? r.view e.buffers with
      | none => (.error .sessionClosed, log)
      | some request =>
        let t := transactionOf r.arguments
        let answer := server.answer t request
        (.ok ⟨((server.replyTo r.view answer).write.on e.message).2,
            (Script.output? r.view e.buffers answer.wire).toList⟩, log ++ [(t, request)])
    else (.error .sessionClosed, log)

/-- The transport in front of the server; its state is the record of what was asked. -/
def transport (server : ObjectServer) : Transport (List (Transaction × Bytes)) where
  send _ e log := server.serve e log
  close _ log := (.ok (), log)

variable {t : Transaction}

/-- **The server understands the arguments of a transaction**, whatever stands behind them. -/
theorem transactionOf_arguments {arguments : Bytes} (h : Relay.transactionArguments t <+: arguments) :
    12 ≤ arguments.length ∧ transactionOf arguments = t := by
  refine ⟨h.length_le, ?_⟩
  obtain ⟨rest, rfl⟩ := h
  obtain ⟨hobject, hcode, hflags⟩ := Bytes.threeWords t.object.toUInt32 t.code t.flags rest
  have hback : transactionOf (Relay.transactionArguments t ++ rest) = ⟨t.object.toUInt32.toInt32, t.code, t.flags⟩ := by
    unfold transactionOf Relay.transactionArguments Relay.signed
    rw [hobject, hcode, hflags]
  exact hback

theorem ofMessage_statics (statics : List Region) (h : statics.length ≤ 1) (m : Message) :
    Response.ofMessage ((Reply.write { sendStatics := statics }).on m).2 0 =
      .ok ⟨[], [], [], Builder.staticDescriptors statics⟩ := by
  have hshape : Reply.shape { sendStatics := statics } = { sendStatics := statics.length, dataWords := 8 } := by
    unfold Reply.shape
    simp only [List.length_nil]
    rfl
  have hwords : (Reply.shape { sendStatics := statics }).dataWords = 8 := by rw [hshape]
  have htotal : (Reply.shape { sendStatics := statics }).total = 8 + statics.length * 8 + 32 := by
    rw [hshape]
    rfl
  have hsize : Message.size = 256 := rfl
  have hfits : Reply.Fits { sendStatics := statics } := {
    copyHandles := Nat.zero_le _
    moveHandles := Nat.zero_le _
    sendStatics := Nat.le_trans h (by decide)
    dataWords := by omega
    total := by omega }
  have hwrite := Reply.write_on_of_fits hfits m
  rw [hwrite]
  exact Reply.ofMessage_write hwrite (Nat.zero_le _)

/-- **The server answers a call of a transaction**, however it carries its buffers: the function is applied to the
request, its answer goes into the place for the reply, and the reply message tells its length if that is a static. -/
theorem serve_call {c : Call} {m : Message} {request reply : Buffer} {p : Placement} (server : ObjectServer)
    (log : List (Transaction × Bytes)) (hlay : c.layOut.on .zero = (.ok (), m)) (ht : c.type = .request)
    (hcommand : c.command = Relay.transactCommand ∨ c.command = Relay.transactAutoCommand)
    (hargs : c.arguments = Relay.transactionArguments t) (hbuffers : c.buffers = [request, reply])
    (hc : (Builder.itemsOf c.additions).Carries request.region reply.region p) (h0 : request.bytes.length ≠ 0)
    (hrequest : request.bytes.length ≤ Parcel.stagingSize) (hreply : reply.bytes.length = Parcel.stagingSize)
    (hne : request.address.toNat % 2 ^ 48 ≠ reply.address.toNat % 2 ^ 48) :
    let answer := server.answer t request.bytes
    ∃ m', server.serve ⟨m, c.buffers⟩ log = (.ok ⟨m', [⟨reply.address, answer.wire⟩]⟩, log ++ [(t, request.bytes)]) ∧
      Response.ofMessage m' 0 = .ok ⟨[], [], [], Builder.staticDescriptors
        (if p = .static then [⟨server.origin, answer.wireSize⟩] else [])⟩ := by
  intro answer
  obtain ⟨r, hread, htype, hcmd, harguments, hshows⟩ := Call.layOut_spec (by rw [ht]; decide) hlay
  rw [hargs] at harguments
  unfold Parcel.stagingSize at hrequest hreply
  have hinput := Script.input?_of_shows hshows hc h0 (by omega)
  obtain ⟨houtput, huses⟩ := Script.output?_of_shows answer.wire hshows hc (by omega) (by omega) hne
  have hwire : answer.wire.take reply.bytes.length = answer.wire := by
    have hfits := server.fits t request.bytes
    refine List.take_of_length_le ?_
    rw [Parcel.length_wire hfits, hreply]
    exact hfits
  have hstatics : server.replyTo r.view answer =
      { sendStatics := if p = .static then [⟨server.origin, answer.wireSize⟩] else [] } := by
    unfold replyTo
    rw [huses]
    simp only [decide_eq_true_eq]
  refine ⟨((server.replyTo r.view answer).write.on m).2, ?_, ?_⟩
  · have hknown : r.commandType = some .request ∧
        (r.command = some Relay.transactCommand ∨ r.command = some Relay.transactAutoCommand) := by
      rw [htype, hcmd, ht]
      exact ⟨rfl, hcommand.imp (congrArg some) (congrArg some)⟩
    unfold serve
    rw [hread]
    show (if _ then _ else _) = _
    rw [if_pos hknown, hbuffers]
    show (match Script.input? r.view [request, reply] with | none => _ | some request => _) = _
    rw [hinput, (transactionOf_arguments harguments).2]
    show (Except.ok (Answer.mk _ (Script.output? r.view [request, reply] answer.wire).toList), _) = _
    rw [houtput, hwire]
    rfl
  · rw [hstatics]
    exact ofMessage_statics _ (by split <;> simp) m

/-- **And the client has the answer**: the store with its bytes, and a response that tells its length if that is a
static. -/
theorem run_call {c : Call} {m : Message} {request reply : Buffer} {p : Placement} (server : ObjectServer)
    (log : List (Transaction × Bytes)) (hlay : c.layOut.on .zero = (.ok (), m)) (ht : c.type = .request)
    (hsize : c.replySize = 0) (hcommand : c.command = Relay.transactCommand ∨ c.command = Relay.transactAutoCommand)
    (hargs : c.arguments = Relay.transactionArguments t) (hbuffers : c.buffers = [request, reply])
    (hc : (Builder.itemsOf c.additions).Carries request.region reply.region p) (h0 : request.bytes.length ≠ 0)
    (hrequest : request.bytes.length ≤ Parcel.stagingSize) (hreply : reply.bytes.length = Parcel.stagingSize)
    (hne : request.address.toNat % 2 ^ 48 ≠ reply.address.toNat % 2 ^ 48) (session : SessionHandle) :
    let answer := server.answer t request.bytes
    let run := (c.exchange session).run server.transport log
    run.value = (.ok ⟨[], [], [], Builder.staticDescriptors
        (if p = .static then [⟨server.origin, answer.wireSize⟩] else [])⟩, [⟨reply.address, answer.wire⟩]) ∧
      run.state = log ++ [(t, request.bytes)] := by
  intro answer run
  obtain ⟨m', hserve, hresponse⟩ :=
    serve_call server log hlay ht hcommand hargs hbuffers hc h0 hrequest hreply hne
  have hrun : run = ⟨c.outcome (server.serve ⟨m, c.buffers⟩ log).1,
      [.sent session ⟨m, c.buffers⟩ (server.serve ⟨m, c.buffers⟩ log).1],
      (server.serve ⟨m, c.buffers⟩ log).2⟩ := by
    show (c.exchange session).run server.transport log = _
    rw [Call.exchange_of_layOut hlay]
    rfl
  rw [hrun, hserve]
  refine ⟨?_, rfl⟩
  show ((Response.ofMessage m' c.replySize).mapError CallError.reply, _) = _
  rw [hsize, hresponse]
  rfl

end ObjectServer

namespace Client

variable {σ α β : Type}

theorem value_bind (t : Transport σ) (x : Client α) (f : α → Client β) (s : σ) :
    ((x >>= f).run t s).value = ((f (x.run t s).value).run t (x.run t s).state).value := by
  show ((x.bind f).run t s).value = _
  rw [run_bind]

theorem state_bind (t : Transport σ) (x : Client α) (f : α → Client β) (s : σ) :
    ((x >>= f).run t s).state = ((f (x.run t s).value).run t (x.run t s).state).state := by
  show ((x.bind f).run t s).state = _
  rw [run_bind]

end Client

namespace Binder

open ObjectServer

theorem mappedCall_spec (t : Transaction) (request reply : Buffer) :
    (∃ m, (Relay.mappedCall t request reply).layOut.on .zero = (.ok (), m)) ∧
      (Builder.itemsOf (Relay.mappedCall t request reply).additions).Carries request.region reply.region .mapped := by
  refine ⟨Call.layOut_of_small (b := Builder.itemsOf (Relay.mappedCall t request reply).additions) rfl ?_ ?_, ?_⟩
  · exact ⟨Nat.zero_le _, Nat.le_refl _, Nat.le_refl _, Nat.zero_le _, rfl, rfl, rfl⟩
  · exact Nat.le_of_ble_eq_true rfl
  · exact ⟨nofun, nofun, ⟨_, rfl, rfl⟩, ⟨_, rfl, rfl⟩⟩

/-- The buffers of the other command, if statics can name them where they travel as such. -/
theorem autoCall_spec (t : Transaction) (p : Placement) {request reply : Buffer}
    (h : p = .static → request.bytes.length ≤ Builder.maxStaticSize ∧ reply.bytes.length ≤ Builder.maxStaticSize) :
    (∃ m, (Relay.autoCall t p request reply).layOut.on .zero = (.ok (), m)) ∧
      (Builder.itemsOf (Relay.autoCall t p request reply).additions).Carries request.region reply.region p := by
  have hcollect : Builder.collect (Relay.autoCall t p request reply).additions =
      .ok (Builder.itemsOf (Relay.autoCall t p request reply).additions) := by
    cases p with
    | static =>
      exact Builder.collect_two
        (Builder.addInAuto_on ⟨Nat.zero_lt_succ _, Nat.zero_lt_succ _⟩ (Builder.placed_static_of_small (h rfl).1))
        (Builder.addOutAuto_on ⟨Nat.zero_lt_succ _, Nat.zero_lt_succ _⟩ (Builder.placed_static_of_small (h rfl).2))
    | mapped => rfl
  refine ⟨Call.layOut_of_small hcollect ?_ ?_, ?_⟩
  · cases p <;> exact ⟨Nat.le_refl _, Nat.le_refl _, Nat.le_refl _, Nat.le_refl _, rfl, rfl, rfl⟩
  · exact Nat.le_of_ble_eq_true rfl
  · cases p with
    | static => exact ⟨rfl, rfl⟩
    | mapped =>
      exact ⟨fun r hr => by rw [← Option.some.inj hr]; rfl, fun r hr => by rw [← Option.some.inj hr]; rfl, ⟨_, rfl, rfl⟩,
        ⟨_, rfl, rfl⟩⟩

theorem staging_le_static : Parcel.stagingSize ≤ Builder.maxStaticSize := by decide

theorem after_answer {q : Parcel} (h : q.wireSize ≤ Parcel.stagingSize) (address : UInt64) :
    ((⟨address, zeros Parcel.stagingSize⟩ : Buffer).after [⟨address, q.wire⟩]).bytes =
      q.wire ++ zeros (Parcel.stagingSize - q.wire.length) := by
  have hlen := Parcel.length_wire h
  show ((⟨address, zeros Parcel.stagingSize⟩ : Buffer).store ⟨address, q.wire⟩).bytes = _
  unfold Buffer.store
  rw [if_pos (UInt64.le_refl _), Nat.sub_self]
  show (zeros _).overlay 0 q.wire = _
  rw [Bytes.overlay_zeros (by omega), Nat.zero_add]
  rfl

/-- What the client takes for the length of an answer: a static tells it, and otherwise it is the whole buffer. -/
theorem filledLength_statics (p : Placement) {origin : UInt64} {size requested : Nat} (h : size ≤ Parcel.stagingSize)
    (hr : requested = Parcel.stagingSize) :
    Response.filledLength
        ⟨[], [], [], Builder.staticDescriptors (if p = .static then [⟨origin, size⟩] else [])⟩ p requested =
      if p = .static then size else Parcel.stagingSize := by
  subst hr
  cases p with
  | mapped => rfl
  | static =>
    show min (StaticDescriptor.describe origin size 0).size.toNat Parcel.stagingSize = size
    have hsmall : size < 2 ^ 16 := Nat.lt_of_le_of_lt h (by decide)
    rw [StaticDescriptor.toNat_size_describe, Nat.mod_eq_of_lt hsmall, Nat.min_eq_left h]

section relay

variable (server : ObjectServer) (session : SessionHandle) (t : Transaction) (request reply : Buffer)
  (h0 : request.bytes.length ≠ 0) (hrequest : request.bytes.length ≤ Parcel.stagingSize)
  (hreply : reply.bytes.length = Parcel.stagingSize)
  (hne : request.address.toNat % 2 ^ 48 ≠ reply.address.toNat % 2 ^ 48) (log : List (Transaction × Bytes))

include h0 hrequest hreply hne

/-- In mapped buffers the whole buffer counts as received. -/
theorem run_relayTransact :
    let run := (Relay.transact session t request reply).run server.transport log
    run.value = (.ok Parcel.stagingSize, reply.after [⟨reply.address, (server.answer t request.bytes).wire⟩]) ∧
      run.state = log ++ [(t, request.bytes)] := by
  intro run
  obtain ⟨⟨m, hm⟩, hc⟩ := mappedCall_spec t request reply
  obtain ⟨hvalue, hstate⟩ := run_call server log hm rfl rfl (.inl rfl) rfl rfl hc h0 hrequest hreply hne session
  constructor
  · show ((Relay.transact session t request reply).run server.transport log).value = _
    unfold Relay.transact
    rw [Client.value_bind, hvalue, ← hreply]
    rfl
  · show ((Relay.transact session t request reply).run server.transport log).state = _
    unfold Relay.transact
    rw [Client.state_bind, hvalue, hstate]
    rfl

/-- In buffers that travel either way, what the static tells or the whole buffer. -/
theorem run_relayTransactAuto (p : Placement) :
    let run := (Relay.transactAuto session t p request reply).run server.transport log
    let answer := server.answer t request.bytes
    run.value = (.ok (if p = .static then answer.wireSize else Parcel.stagingSize),
        reply.after [⟨reply.address, answer.wire⟩]) ∧
      run.state = log ++ [(t, request.bytes)] := by
  intro run answer
  obtain ⟨⟨m, hm⟩, hc⟩ := autoCall_spec t p fun _ =>
    ⟨Nat.le_trans hrequest staging_le_static, Nat.le_trans (Nat.le_of_eq hreply) staging_le_static⟩
  obtain ⟨hvalue, hstate⟩ := run_call server log hm rfl rfl (.inr rfl) rfl rfl hc h0 hrequest hreply hne session
  constructor
  · show ((Relay.transactAuto session t p request reply).run server.transport log).value = _
    unfold Relay.transactAuto
    rw [Client.value_bind, hvalue]
    show (Except.ok (Response.filledLength _ p reply.bytes.length), _) = _
    rw [filledLength_statics p (server.fits t request.bytes) hreply]
  · show ((Relay.transactAuto session t p request reply).run server.transport log).state = _
    unfold Relay.transactAuto
    rw [Client.state_bind, hvalue, hstate]
    rfl

end relay

/-- **Whatever carries a transaction**, the client ends with the server's answer at the front of what it counts as
received. -/
theorem run_dispatch (server : ObjectServer) (b : Binder) {staging : Staging} (code flags : UInt32) {sent : Bytes}
    (h0 : sent.length ≠ 0) (hlen : sent.length ≤ Parcel.stagingSize)
    (hne : staging.request.toNat % 2 ^ 48 ≠ staging.reply.toNat % 2 ^ 48) (log : List (Transaction × Bytes)) :
    let t : Transaction := ⟨b.object, code, flags⟩
    let run := (b.dispatch code flags ⟨staging.request, sent⟩ ⟨staging.reply, zeros Parcel.stagingSize⟩).run
      server.transport log
    run.state = log ++ [(t, sent)] ∧ ∃ received filled rest, run.value = (.ok received, filled) ∧
      filled.bytes.take received = (server.answer t sent).wire ++ rest := by
  intro t run
  have hfits := server.fits t sent
  have hwire := Parcel.length_wire hfits
  have hafter := after_answer hfits staging.reply
  -- in mapped buffers the whole buffer counts, and behind the answer it is as the client lent it
  have hwhole : ((⟨staging.reply, zeros Parcel.stagingSize⟩ : Buffer).after
      [⟨staging.reply, (server.answer t sent).wire⟩]).bytes.take Parcel.stagingSize =
      (server.answer t sent).wire ++ zeros (Parcel.stagingSize - (server.answer t sent).wire.length) := by
    rw [hafter]
    refine List.take_of_length_le ?_
    rw [List.length_append, Bytes.length_zeros]
    omega
  have hblank : (zeros Parcel.stagingSize).length = Parcel.stagingSize := Bytes.length_zeros _
  show ((b.dispatch code flags _ _).run server.transport log).state = _ ∧
    ∃ received filled rest, ((b.dispatch code flags _ _).run server.transport log).value = _ ∧ _
  unfold dispatch
  cases b.mode with
  | legacy =>
    obtain ⟨hvalue, hstate⟩ := run_relayTransact server b.relay.session t ⟨staging.request, sent⟩
      ⟨staging.reply, zeros Parcel.stagingSize⟩ h0 hlen hblank hne log
    exact ⟨hstate, _, _, _, hvalue, hwhole⟩
  | combined =>
    obtain ⟨hvalue, hstate⟩ := run_relayTransactAuto server b.relay.session t ⟨staging.request, sent⟩
      ⟨staging.reply, zeros Parcel.stagingSize⟩ h0 hlen hblank hne log (b.placement sent.length)
    cases hp : b.placement sent.length with
    | mapped =>
      rw [hp] at hvalue hstate
      exact ⟨hstate, _, _, _, hvalue, hwhole⟩
    | static =>
      rw [hp] at hvalue hstate
      refine ⟨hstate, _, _, [], hvalue, ?_⟩
      rw [hafter, if_pos rfl, ← hwire, List.take_left', List.append_nil]
      rfl

/-- **All carriages of a transaction agree.**  Whatever the mode of an initialized binder, its threshold and its pointer
buffer, a request that fits the staging buffer reaches the object once and as it was, and the reply parcel ends with the
contents of the answer, to be read from the start, whatever it held before. -/
theorem run_transact (server : ObjectServer) (b : Binder) (hb : b.state = .initialized) (staging : Staging)
    (hne : staging.request.toNat % 2 ^ 48 ≠ staging.reply.toNat % 2 ^ 48) (code flags : UInt32) (request : Parcel)
    (hrequest : request.wireSize ≤ Parcel.stagingSize) (reply : Parcel) (log : List (Transaction × Bytes)) :
    let t : Transaction := ⟨b.object, code, flags⟩
    let answer := server.answer t request.wire
    let run := (b.transact staging code flags request reply).run server.transport log
    run.state = log ++ [(t, request.wire)] ∧ ∃ filled, run.value = (.ok (), filled) ∧
      filled.data.written = answer.data.written ∧ filled.objects.written = answer.objects.written ∧
      filled.data.cursor = 0 ∧ filled.objects.cursor = 0 := by
  intro t answer run
  have hsize := Parcel.length_wire hrequest
  obtain ⟨staged, hserialize, hstaged⟩ := Parcel.serialize_zeros hrequest
  have hsome : request.wire.length ≠ 0 := by
    rw [hsize]
    unfold Parcel.wireSize Parcel.WireHeader.width
    omega
  obtain ⟨hstate, received, filled, rest, hvalue, hfilled⟩ := run_dispatch server b code flags hsome
    (Nat.le_trans (Nat.le_of_eq hsize) hrequest) hne log
  have hread := Parcel.deserialize_wire (server.fits t request.wire) rest reply
  rw [← hfilled] at hread
  have hbusy : ¬ b.state ≠ .initialized := fun h => h hb
  have hrun : run.state = log ++ [(t, request.wire)] ∧ run.value =
      (.ok (), ⟨reply.data.replace answer.data.written, reply.objects.replace answer.objects.written⟩) := by
    show ((b.transact staging code flags request reply).run server.transport log).state = _ ∧
      ((b.transact staging code flags request reply).run server.transport log).value = _
    unfold transact
    rw [if_neg hbusy, hserialize]
    show ((b.dispatch code flags ⟨_, staged.take _⟩ ⟨_, zeros _⟩ >>= _).run server.transport log).state = _ ∧
      ((b.dispatch code flags ⟨_, staged.take _⟩ ⟨_, zeros _⟩ >>= _).run server.transport log).value = _
    rw [Client.value_bind, Client.state_bind, hstaged, hvalue, hstate]
    simp only [hread]
    exact ⟨rfl, rfl⟩
  exact ⟨hrun.1, _, hrun.2, (Parcel.written_replace_written (server.fits t request.wire) _).1,
    (Parcel.written_replace_written (server.fits t request.wire) _).2, rfl, rfl⟩

/-- A server that answers with the code of the transaction and the first bytes of the request. -/
def echoServer : ObjectServer where
  answer t request := ⟨Parcel.Area.empty.replace (Bytes.ofUInt32 t.code ++ request.take 0x100), .empty⟩
  fits t request := by
    simp [Parcel.wireSize, Parcel.Area.replace, Parcel.Area.empty, Parcel.WireHeader.width, Parcel.stagingSize]
    omega
  origin := 0

/-- A request of one number travels in statics, and comes back behind the code of the transaction. -/
theorem run_transact_statics :
    let b := (create ⟨⟨1⟩, 0⟩ 7).initialized ⟨.ofParts 3 0 0, none, false⟩ 9 0x1000
    let request := ((Parcel.writeUInt32 3).on .empty).2
    let run := (b.transact ⟨0x1000, 0x2000⟩ 4 0 request .empty).run echoServer.transport []
    b.placement request.wireSize = .static ∧ run.state = [(⟨7, 4, 0⟩, request.wire)] ∧
      ∃ filled, run.value = (.ok (), filled) ∧ filled.data.written = [4, 0, 0, 0] ++ request.wire := by
  intro b request run
  obtain ⟨hstate, filled, hvalue, hdata, -⟩ :=
    run_transact echoServer b rfl ⟨0x1000, 0x2000⟩ (by decide) 4 0 request (by decide) .empty []
  have hanswer : (echoServer.answer ⟨b.object, 4, 0⟩ request.wire).data.written = [4, 0, 0, 0] ++ request.wire := by
    decide +kernel
  exact ⟨by decide, hstate, filled, hvalue, hdata.trans hanswer⟩

end Binder
end HorizonIpc
