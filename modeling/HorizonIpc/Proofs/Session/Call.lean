import HorizonIpc.Proofs.Command.RoundTrip
import HorizonIpc.Proofs.Session.Ensures
import HorizonIpc.Session.Call
/-!
# Proofs.Session.Call — what a call sends

The message of a call, if it can be laid out at all, is read by a server as the call's command with its arguments and
additions (`layOut_spec`).  A call sends this one message, and its outcome is read off the answer
(`exchange_of_laidOut`); it sends nothing where it cannot be laid out.
-/
namespace HorizonIpc
namespace Call

open Builder

variable {c : Call}

/-- **A server reads the message of a call** as the call's command, with its arguments and what was added. -/
theorem layOut_spec {m : Message} (ht : c.type ≠ .close) (h : c.layOut.on .zero = (.ok (), m)) :
    ∃ r, ServerRequest.ofMessage m = .ok r ∧ r.commandType = some c.type ∧ r.command = some c.command ∧
      c.arguments <+: r.arguments ∧ r.view.Shows (itemsOf c.additions) := by
  unfold layOut at h
  cases hb : collect c.additions with
  | error e => simp [hb] at h
  | ok b =>
    obtain ⟨r, m', hs⟩ : ∃ r m', (Request.start b c.type c.command c.arguments.length).on .zero = (r, m') :=
      ⟨_, _, rfl⟩
    cases r with
    | error e => simp [hb, hs] at h
    | ok slot =>
      obtain ⟨hitems, hf⟩ := collect_spec hb
      obtain ⟨hv, -⟩ := Request.start_ok hs
      obtain ⟨data, hd, tail, hshown, hread⟩ := Request.ofMessage_putArguments ht hs
      have hm : m = ((Request.putArguments slot c.arguments).on m').2 := by
        simp only [Attempt.on_bind, Attempt.on_ofExcept, hb, hs] at h
        exact (congrArg Prod.snd h).symm
      rw [hm, ← hitems]
      exact ⟨_, hread, rfl, rfl, List.prefix_append _ _, shows_view hf hv hshown⟩

/-- **A small call is laid out**, if its additions can be made at all. -/
theorem layOut_of_small {b : Builder} (hb : collect c.additions = .ok b) (hs : b.Small)
    (hlen : c.arguments.length ≤ 48) : ∃ m, c.layOut.on .zero = (.ok (), m) := by
  have hfits := hs.fits c.type.code (show PayloadHeader.width + c.arguments.length ≤ 64 from Nat.add_le_add_left hlen 16)
  obtain ⟨slot, m', h⟩ : ∃ slot m', (Request.start b c.type c.command c.arguments.length).on .zero = (.ok slot, m') :=
    Request.start_of_fits hfits .zero
  unfold layOut
  simp only [Attempt.on_bind, Attempt.on_ofExcept, hb, h]
  exact ⟨_, rfl⟩

/-- What a call makes of what it is answered: its outcome, and what the server put into the client's buffers. -/
def outcome (c : Call) : Except SendError Answer → Except CallError Response × List Store
  | .error e => (.error (.send e), [])
  | .ok answer => ((Response.ofMessage answer.message c.replySize).mapError .reply, answer.stores)

theorem exchange_of_layOut {m : Message} (h : c.layOut.on .zero = (.ok (), m)) (session : SessionHandle) :
    c.exchange session = .send session ⟨m, c.buffers⟩ fun answer => .done (c.outcome answer) := by
  unfold exchange
  rw [h]
  show Client.send _ _ _ = _
  congr 1
  funext answer
  cases answer <;> rfl

theorem exchange_of_error {e : BuildError} {m : Message} (h : c.layOut.on .zero = (.error e, m))
    (session : SessionHandle) : c.exchange session = .done (.error (.build e), []) := by
  unfold exchange
  rw [h]
  rfl

/-- The message that a call sends. -/
def message (c : Call) : Message := (c.layOut.on .zero).2

/-- The request of the call can be laid out. -/
def LaidOut (c : Call) : Prop := c.layOut.on .zero = (.ok (), c.message)

/-- The one event of a call. -/
def trip (c : Call) (session : SessionHandle) (answer : Except SendError Answer) : Event :=
  .sent session ⟨c.message, c.buffers⟩ answer

theorem laidOut_of_on {m : Message} (h : c.layOut.on .zero = (.ok (), m)) : c.LaidOut := by
  unfold LaidOut message
  rw [h]

theorem laidOut_of_small {b : Builder} (hb : collect c.additions = .ok b) (hs : b.Small)
    (hlen : c.arguments.length ≤ 48) : c.LaidOut := by
  obtain ⟨m, hm⟩ := layOut_of_small hb hs hlen
  exact laidOut_of_on hm

/-- **A call is one send**, and its outcome is read off the answer. -/
theorem exchange_of_laidOut (h : c.LaidOut) (session : SessionHandle) :
    c.exchange session = .send session ⟨c.message, c.buffers⟩ fun answer => .done (c.outcome answer) :=
  exchange_of_layOut h session

theorem ask_of_laidOut (h : c.LaidOut) (session : SessionHandle) :
    c.ask session = .send session ⟨c.message, c.buffers⟩ fun answer => .done (c.outcome answer).1 := by
  unfold ask
  rw [exchange_of_laidOut h]
  rfl

/-- A call that was sent does not fail to be built. -/
theorem outcome_ne_build (c : Call) (answer : Except SendError Answer) (e : BuildError) :
    (c.outcome answer).1 ≠ .error (.build e) := by
  cases answer with
  | error _ => exact nofun
  | ok answer =>
    show (Response.ofMessage answer.message c.replySize).mapError CallError.reply ≠ _
    cases Response.ofMessage answer.message c.replySize <;> exact nofun

/-- A reply that was accepted is the response to the call. -/
theorem ofMessage_of_outcome {answer : Except SendError Answer} {response : Response}
    (h : (c.outcome answer).1 = .ok response) :
    ∃ a, answer = .ok a ∧ Response.ofMessage a.message c.replySize = .ok response := by
  cases answer with
  | error failure => cases h
  | ok a =>
    refine ⟨a, rfl, ?_⟩
    change (Response.ofMessage a.message c.replySize).mapError CallError.reply = _ at h
    cases hr : Response.ofMessage a.message c.replySize with
    | ok response' =>
      rw [hr] at h
      cases h
      rfl
    | error failure =>
      rw [hr] at h
      cases h

/-- **How a call fails** on its answer: it could not be sent, or the reply is not accepted. -/
inductive Fails (replySize : Nat) : Except SendError Answer → CallError → Prop
  | send (e : SendError) : Fails replySize (.error e) (.send e)
  | reply {answer : Answer} {e : ReplyError} (h : Response.ofMessage answer.message replySize = .error e) :
      Fails replySize (.ok answer) (.reply e)

theorem outcome_of_ofMessage {a : Answer} {response : Response}
    (h : Response.ofMessage a.message c.replySize = .ok response) : (c.outcome (.ok a)).1 = .ok response := by
  show (Response.ofMessage a.message c.replySize).mapError CallError.reply = _
  rw [h]
  rfl

theorem outcome_eq_error_iff {answer : Except SendError Answer} {e : CallError} :
    (c.outcome answer).1 = .error e ↔ Fails c.replySize answer e := by
  constructor
  · intro h
    cases answer with
    | error failure =>
      cases h
      exact .send failure
    | ok a =>
      change (Response.ofMessage a.message c.replySize).mapError CallError.reply = _ at h
      cases hr : Response.ofMessage a.message c.replySize with
      | ok response =>
        rw [hr] at h
        cases h
      | error failure =>
        rw [hr] at h
        cases h
        exact .reply hr
  · intro h
    cases h with
    | send failure => rfl
    | @reply a failure hr =>
      show (Response.ofMessage a.message c.replySize).mapError CallError.reply = _
      rw [hr]
      rfl

end Call
end HorizonIpc
