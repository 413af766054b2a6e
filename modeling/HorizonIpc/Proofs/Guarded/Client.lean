import HorizonIpc.Proofs.Binder.Commands
import HorizonIpc.Proofs.Guarded.Command
import HorizonIpc.Proofs.Guarded.Request
import Mathlib.Data.List.Basic
/-!
# Proofs.Guarded.Client — clients whose steps can be faults

A guarded client is one that may stop with a fault on the way.  Each guarded client here is the plain one lifted, and
then it runs like the plain one on every transport (`faultless_of_eq`).  Most of them meet no fault because the commands
that they are made of do not; the question for the pointer buffer looks into the data of its reply, and only what can
come of a call counts there (`lifted_send`).
-/
namespace HorizonIpc
namespace Guarded

variable {α β : Type}

/-! ## the guarded clients -/

/-- A step of a client that can be a fault. -/
def check (x : Option α) : OptionT Client α := OptionT.mk (pure x)

def exchange (c : Call) (session : SessionHandle) : OptionT Client (Except CallError Response × List Store) := do
  match ← check (layOut c .zero) with
  | (.error e, _) => return (.error (.build e), [])
  | (.ok (), message) =>
    match ← OptionT.lift (Client.sendOn session ⟨message, c.buffers⟩) with
    | .error e => return (.error (.send e), [])
    | .ok answer =>
      let r ← check (response answer.message c.replySize)
      return (r.mapError .reply, answer.stores)

def ask (c : Call) (session : SessionHandle) : OptionT Client (Except CallError Response) := do
  let (r, _) ← exchange c session
  return r

/-- Asks for the size of a pointer buffer; its two bytes are taken from the data one by one. -/
def queryPointerBufferSize (session : SessionHandle) : OptionT Client (Except CallError UInt16) := do
  match ← ask Service.pointerBufferCall session with
  | .error e => return .error e
  | .ok response =>
    let low ← check response.data[0]?
    let high ← check response.data[1]?
    return .ok (Bytes.toUInt16 [low, high])

def ofSession (session : SessionHandle) : OptionT Client (Except CallError Service) := do
  let r ← queryPointerBufferSize session
  return r.map fun size => ⟨session, size⟩

def register (n : NameService) : OptionT Client (Except CallError Unit) := do
  let r ← ask NameService.registerCall n.service.session
  return r.map fun _ => ()

def lookup (n : NameService) (name : ServiceName) : OptionT Client (Except FetchError SessionHandle) := do
  match ← ask (NameService.lookupCall name) n.service.session with
  | .error e => return .error (.call e)
  | .ok response =>
    match response.moveHandles with
    | handle :: _ => return .ok ⟨handle⟩
    | [] => return .error .missingHandle

def openService (n : NameService) (name : ServiceName) : OptionT Client (Except OpenError Service) := do
  match ← lookup n name with
  | .error e => return .error (.lookup e)
  | .ok session =>
    match ← ofSession session with
    | .ok service => return .ok service
    | .error probe =>
      match ← OptionT.lift (Client.closeHandle session.raw) with
      | .ok () => return .error (.probe probe)
      | .error close => return .error (.probeAndClose probe close)

/-! ## clients without a fault -/

/-- **A guarded client meets no fault**: on every transport it runs as the plain client does. -/
def Faultless (x : OptionT Client α) (y : Client α) : Prop :=
  ∀ {σ : Type} (t : Transport σ) (s : σ),
    x.run.run t s = ⟨some (y.run t s).value, (y.run t s).events, (y.run t s).state⟩

/-- **The plain client lifted** meets no fault. -/
theorem faultless_of_eq {x : OptionT Client α} {y : Client α} (h : x = OptionT.lift y) : Faultless x y := by
  subst h
  intro σ t s
  show (y.bind fun a => .done (some a)).run t s = _
  rw [Client.run_bind]
  show Run.mk (some _) (_ ++ []) _ = _
  rw [List.append_nil]
  rfl

/-- **One client after the other**: neither meets a fault. -/
theorem lifted_bind {x : Client α} {f : α → OptionT Client β} {g : α → Client β} (h : ∀ a, f a = OptionT.lift (g a)) :
    (OptionT.lift x >>= f) = OptionT.lift (x >>= g) := by
  rw [OptionT.lift_bind, funext h]

/-- **Behind a send**, only the outcomes count that some answer has. -/
theorem lifted_send {session : SessionHandle} {exchange : Exchange} {out : Except SendError Answer → α}
    {f : α → OptionT Client β} {g : α → Client β} (h : ∀ answer, f (out answer) = OptionT.lift (g (out answer))) :
    (OptionT.lift (.send session exchange fun answer => .done (out answer)) >>= f) =
      OptionT.lift (Client.send session exchange (fun answer => .done (out answer)) >>= g) := by
  show OptionT.mk (Client.send session exchange fun answer => (f (out answer)).run) = _
  simp only [h]
  rfl

theorem exchange_eq (c : Call) (session : SessionHandle) : exchange c session = OptionT.lift (c.exchange session) := by
  unfold exchange Call.exchange
  rw [layOut_eq]
  rcases c.layOut.on .zero with ⟨e | _, message⟩
  · rfl
  · refine lifted_bind fun r => ?_
    cases r with
    | error e => rfl
    | ok answer =>
      dsimp only
      rw [response_eq]
      rfl

theorem ask_eq (c : Call) (session : SessionHandle) : ask c session = OptionT.lift (c.ask session) := by
  unfold ask
  rw [exchange_eq]
  exact lifted_bind fun _ => rfl

theorem data_of_outcome {answer : Except SendError Answer} {response : Response}
    (h : (Service.pointerBufferCall.outcome answer).1 = .ok response) : ∃ low high, response.data = [low, high] := by
  obtain ⟨a, -, hr⟩ := Call.ofMessage_of_outcome h
  obtain ⟨hlen, -⟩ := response_ok hr
  exact List.length_eq_two.1 hlen

theorem queryPointerBufferSize_eq (session : SessionHandle) :
    queryPointerBufferSize session = OptionT.lift (Service.queryPointerBufferSize session) := by
  unfold queryPointerBufferSize
  show _ = OptionT.lift (Service.pointerBufferCall.ask session >>= _)
  rw [ask_eq, Call.ask_of_laidOut Service.laidOut_pointerBufferCall]
  -- there are responses with no data to look into, but this call has no such outcome
  refine lifted_send fun answer => ?_
  cases ho : (Service.pointerBufferCall.outcome answer).1 with
  | error e => rfl
  | ok response =>
    obtain ⟨low, high, hdata⟩ := data_of_outcome ho
    dsimp only [Except.map]
    rw [hdata]
    rfl

theorem ofSession_eq (session : SessionHandle) : ofSession session = OptionT.lift (Service.ofSession session) := by
  unfold ofSession
  rw [queryPointerBufferSize_eq]
  exact lifted_bind fun _ => rfl

theorem register_eq (n : NameService) : register n = OptionT.lift n.register := by
  unfold register
  rw [ask_eq]
  exact lifted_bind fun _ => rfl

theorem lookup_eq (n : NameService) (name : ServiceName) : lookup n name = OptionT.lift (n.lookup name) := by
  unfold lookup
  rw [ask_eq]
  refine lifted_bind fun r => ?_
  rcases r with e | ⟨_, _, _ | _, _⟩ <;> rfl

/-- **Opening a service meets no fault**, even where the new session does not tell its pointer buffer. -/
theorem openService_eq (n : NameService) (name : ServiceName) :
    openService n name = OptionT.lift (n.openService name) := by
  unfold openService
  rw [lookup_eq]
  refine lifted_bind fun r => ?_
  cases r with
  | error e => rfl
  | ok session =>
    dsimp only
    rw [ofSession_eq]
    refine lifted_bind fun r => ?_
    cases r with
    | ok service => rfl
    | error probe => exact lifted_bind fun closed => by cases closed <;> rfl

end Guarded
end HorizonIpc
