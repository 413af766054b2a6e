import HorizonIpc.Proofs.Binder.Agreement
import HorizonIpc.Proofs.Binder.Balance
/-!
# Proofs.Binder.Counting — a relay that counts references

A `CountingServer` decodes every message that reaches it.  A request to change a reference count that it accepts changes
that count, by the amount and of the kind that it decodes, and is answered with success; anything that is not a decrease
may be lost or refused instead, and what it answers to other messages is not fixed at all.  `Leads` says what a client
comes to in front of such a server, whatever happens there.
-/
namespace HorizonIpc

def RefKind.ofCode? (code : Int32) : Option RefKind :=
  if code = 0 then some weak else if code = 1 then some strong else none

structure Adjustment where
  object : Int32
  amount : Int32
  kind : RefKind
  deriving DecidableEq

namespace Adjustment

def ofArguments? (arguments : Bytes) : Option Adjustment :=
  if arguments.length < 12 then none
  else (RefKind.ofCode? (Bytes.toUInt32 (arguments.drop 8)).toInt32).map fun kind =>
    ⟨(Bytes.toUInt32 arguments).toInt32, (Bytes.toUInt32 (arguments.drop 4)).toInt32, kind⟩

/-- The adjustment that a message asks for, if a server reads it as one. -/
def ofMessage? (m : Message) : Option Adjustment :=
  match ServerRequest.ofMessage m with
  | .ok r =>
    if r.commandType = some .request ∧ r.command = some 1 then ofArguments? r.arguments else none
  | .error _ => none

theorem ofCode?_code (kind : RefKind) : RefKind.ofCode? kind.code = some kind := by cases kind <;> rfl

/-- **The arguments of a request to change a count** are decoded to what the client wrote, negative words included. -/
theorem ofArguments?_of_prefix {object amount : Int32} {kind : RefKind} {arguments : Bytes}
    (h : Relay.signed object ++ Relay.signed amount ++ Relay.signed kind.code <+: arguments) :
    ofArguments? arguments = some ⟨object, amount, kind⟩ := by
  obtain ⟨rest, rfl⟩ := h
  obtain ⟨hobject, hamount, hkind⟩ := Bytes.threeWords object.toUInt32 amount.toUInt32 kind.code.toUInt32 rest
  have hlong : ¬ (Relay.signed object ++ Relay.signed amount ++ Relay.signed kind.code ++ rest).length < 12 := by
    simp only [List.length_append, Tally.length_signed]
    omega
  unfold ofArguments?
  rw [if_neg hlong]
  unfold Relay.signed
  rw [hobject, hamount, hkind]
  show (RefKind.ofCode? kind.code).map _ = _
  rw [ofCode?_code]
  rfl

theorem ofMessage?_of_layOut {c : Call} {m : Message} (ht : c.type ≠ .close) (h : c.layOut.on .zero = (.ok (), m)) :
    ∃ arguments, c.arguments <+: arguments ∧
      ofMessage? m = if c.type = .request ∧ c.command = Relay.adjustCommand then ofArguments? arguments else none := by
  obtain ⟨r, hread, htype, hcommand, hargs, -⟩ := Call.layOut_spec ht h
  refine ⟨r.arguments, hargs, ?_⟩
  unfold ofMessage?
  rw [hread]
  simp only [htype, hcommand, Option.some.injEq]
  rfl

end Adjustment

abbrev Counts := Int32 → RefKind → Int

def Counts.add (c : Counts) (object : Int32) (kind : RefKind) (n : Int) : Counts :=
  fun o k => c o k + if o = object ∧ k = kind then n else 0

inductive Hindrance where
  | lost (e : SendError)
  | refused (code : ErrorCode)

/-- A relay that counts references: what may happen to an increase, and what it answers to everything else. -/
structure CountingServer (σ : Type) where
  hinder : SessionHandle → Exchange → σ → Option Hindrance × σ
  others : Transport σ

namespace CountingServer

structure State (σ : Type) where
  counts : Counts
  rest : σ

def reply (status : UInt32) (m : Message) : Answer := { message := ((Reply.write { status }).on m).2 }

variable {σ : Type}

def serve (server : CountingServer σ) (session : SessionHandle) (e : Exchange) (s : State σ) :
    Except SendError Answer × State σ :=
  match Adjustment.ofMessage? e.message with
  | none =>
    let (answer, rest) := server.others.send session e s.rest
    (answer, { s with rest })
  | some a =>
    -- a decrease is never kept from being counted
    let (hindrance, rest) := if a.amount.toInt < 0 then (none, s.rest) else server.hinder session e s.rest
    match hindrance with
    | some (.lost error) => (.error error, { s with rest })
    | some (.refused code) => (.ok (reply code.word e.message), { s with rest })
    | none => (.ok (reply 0 e.message), ⟨s.counts.add a.object a.kind a.amount.toInt, rest⟩)

def transport (server : CountingServer σ) : Transport (State σ) where
  send := server.serve
  close handle s :=
    let (outcome, rest) := server.others.close handle s.rest
    (outcome, { s with rest })

theorem ofMessage_reply (status : UInt32) (m : Message) :
    Response.ofMessage (reply status m).message 0 =
      (ErrorCode.ofWord? status).elim (.ok ⟨[], [], [], []⟩) fun e => .error (.service e) := by
  have hfits : Reply.Fits { status } := {
    copyHandles := Nat.zero_le _
    moveHandles := Nat.zero_le _
    sendStatics := Nat.zero_le _
    dataWords := (by decide : (Reply.shape {}).dataWords ≤ 0x3FF)
    total := (by decide : (Reply.shape {}).total ≤ Message.size) }
  have hwrite := Reply.write_on_of_fits hfits m
  unfold reply
  rw [hwrite]
  exact Reply.ofMessage_write hwrite (Nat.zero_le _)

variable {e : Exchange}

theorem counts_serve_of_none (server : CountingServer σ) (h : Adjustment.ofMessage? e.message = none)
    (session : SessionHandle) (s : State σ) : (server.serve session e s).2.counts = s.counts := by
  unfold serve
  rw [h]

/-- **An adjustment** is counted and answered with success; or it is no decrease, the counts stay, and it is lost or
refused. -/
theorem serve_of_some (server : CountingServer σ) {a : Adjustment} (h : Adjustment.ofMessage? e.message = some a)
    (session : SessionHandle) (s : State σ) :
    ((server.serve session e s).1 = .ok (reply 0 e.message) ∧
        (server.serve session e s).2.counts = s.counts.add a.object a.kind a.amount.toInt) ∨
      (¬ a.amount.toInt < 0 ∧ (server.serve session e s).2.counts = s.counts ∧
        ((∃ error, (server.serve session e s).1 = .error error) ∨
          ∃ code : ErrorCode, (server.serve session e s).1 = .ok (reply code.word e.message))) := by
  unfold serve
  rw [h]
  dsimp only
  by_cases hdecrease : a.amount.toInt < 0
  · simp only [hdecrease, if_true]
    exact .inl ⟨trivial, trivial⟩
  · simp only [hdecrease, if_false]
    rcases (server.hinder session e s.rest).1 with _ | error | code
    · exact .inl ⟨rfl, rfl⟩
    · exact .inr ⟨not_false, rfl, .inl ⟨error, rfl⟩⟩
    · exact .inr ⟨not_false, rfl, .inr ⟨code, rfl⟩⟩

end CountingServer

namespace Client

variable {σ α β : Type} {server : CountingServer σ} {c : Counts}

/-- **What a client leads to**: started at some counts in front of the server, it ends with a result and counts that `Q`
holds of. -/
def Leads (server : CountingServer σ) (c : Counts) (x : Client α) (Q : α → Counts → Prop) : Prop :=
  ∀ rest, Q (x.run server.transport ⟨c, rest⟩).value (x.run server.transport ⟨c, rest⟩).state.counts

theorem Leads.done {a : α} {Q : α → Counts → Prop} (h : Q a c) : Leads server c (.done a) Q := fun _ => h

theorem Leads.bind {x : Client α} {f : α → Client β} {Q : β → Counts → Prop}
    (h : Leads server c x fun a c' => Leads server c' (f a) Q) : Leads server c (x >>= f) Q := by
  intro rest
  rw [value_bind, state_bind]
  exact h rest _

theorem Leads.imp {x : Client α} {Q R : α → Counts → Prop} (h : Leads server c x Q) (hQ : ∀ a c', Q a c' → R a c') :
    Leads server c x R := fun rest => hQ _ _ (h rest)

theorem Leads.map {x : Client α} {f : α → β} {Q : β → Counts → Prop} (h : Leads server c x fun a => Q (f a)) :
    Leads server c (f <$> x) Q := by
  rw [← bind_pure_comp]
  exact .bind fun rest => .done (h rest)

theorem leads_closeHandle {handle : UInt32} {Q : Except CloseError Unit → Counts → Prop} (h : ∀ r, Q r c) :
    Leads server c (closeHandle handle) Q := fun _ => h _

/-- **A call that is no request to change a count** leaves the counts alone. -/
theorem leads_neutral {call : Call} {session : SessionHandle}
    {Q : Except CallError Response × List Store → Counts → Prop} (ht : call.type ≠ .close)
    (hc : call.type = .request → call.command ≠ Relay.adjustCommand) (hQ : ∀ r, Q r c) :
    Leads server c (call.exchange session) Q := by
  obtain ⟨r, m, h⟩ : ∃ r m, call.layOut.on .zero = (r, m) := ⟨_, _, rfl⟩
  cases r with
  | error e =>
    -- what cannot be laid out is never sent
    rw [Call.exchange_of_error h]
    exact .done (hQ _)
  | ok u =>
    obtain ⟨arguments, -, hread⟩ := Adjustment.ofMessage?_of_layOut ht h
    rw [if_neg fun hboth => hc hboth.1 hboth.2] at hread
    rw [Call.exchange_of_layOut h]
    intro rest
    show Q (call.outcome _) (server.serve session ⟨m, call.buffers⟩ ⟨c, rest⟩).2.counts
    rw [server.counts_serve_of_none (e := ⟨m, call.buffers⟩) hread]
    exact hQ _

end Client

namespace Binder

open Client

variable {σ : Type} {server : CountingServer σ} {c : Counts} {b : Binder}

/-- **A request to change a count** changes it as the client asked, or fails and changes nothing; a decrease does not
fail. -/
theorem leads_adjust {amount : Int32} {kind : RefKind} {Q : Except CallError Unit → Counts → Prop}
    (hok : Q (.ok ()) (c.add b.object kind amount.toInt)) (herr : ¬ amount.toInt < 0 → ∀ e, Q (.error e) c) :
    Leads server c (b.adjust amount kind) Q := by
  -- the call is small, so it is always sent: a decrease could not be counted otherwise
  obtain ⟨m, hlay⟩ := Call.layOut_of_small (c := adjustCall b.object amount kind) rfl small_empty
    (show _ ≤ 48 by simp [adjustCall, Tally.length_signed])
  obtain ⟨arguments, hargs, hread⟩ := Adjustment.ofMessage?_of_layOut (show CommandType.request ≠ .close by decide) hlay
  rw [if_pos ⟨rfl, rfl⟩, Adjustment.ofArguments?_of_prefix hargs] at hread
  show Leads server c (Prod.fst <$> (adjustCall b.object amount kind).exchange b.relay.session >>= fun r =>
    pure (r.map fun _ => ())) Q
  refine .bind (.map ?_)
  rw [Call.exchange_of_layOut hlay]
  intro rest
  -- what the client makes of the reply, and what the counts are then
  show Leads server (server.serve b.relay.session ⟨m, []⟩ ⟨c, rest⟩).2.counts
    (.done (((adjustCall b.object amount kind).outcome (server.serve b.relay.session ⟨m, []⟩ ⟨c, rest⟩).1).1.map _)) Q
  refine .done ?_
  rcases server.serve_of_some (e := ⟨m, []⟩) hread b.relay.session ⟨c, rest⟩ with
    ⟨hanswer, hcounts⟩ | ⟨hamount, hcounts, ⟨error, hanswer⟩ | ⟨code, hanswer⟩⟩
  · have hreply : Response.ofMessage (CountingServer.reply 0 m).message 0 = .ok ⟨[], [], [], []⟩ :=
      CountingServer.ofMessage_reply 0 m
    rw [hanswer, hcounts]
    show Q (((Response.ofMessage (CountingServer.reply 0 m).message 0).mapError CallError.reply).map _) _
    rw [hreply]
    exact hok
  · rw [hanswer, hcounts]
    exact herr hamount _
  · have hreply : Response.ofMessage (CountingServer.reply code.word m).message 0 = .error (.service code) := by
      rw [CountingServer.ofMessage_reply, ErrorCode.ofWord?_eq_some_iff.2 rfl]
      rfl
    rw [hanswer, hcounts]
    show Q (((Response.ofMessage (CountingServer.reply code.word m).message 0).mapError CallError.reply).map _) _
    rw [hreply]
    exact herr hamount _

end Binder
end HorizonIpc
