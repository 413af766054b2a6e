import HorizonIpc.Proofs.Command.RoundTrip
import HorizonIpc.Service.NameService
import HorizonIpc.Session.Transport
/-!
# Proofs.Service.Closing — a session is closed whatever the server says

Closing a service sends one message and then closes the handle, and neither depends on what came of the other.  There
are two results and one report: a handle that cannot be closed hides a request that could not be sent, so that the
status reported is that of the first failure unless both fail with different statuses (`close_reports`).
-/
namespace HorizonIpc

/-! ## the message -/

/-- **A message asks for nothing but to close**: a server reads this request in it, without a command or arguments, with
no item in any section and no data words. -/
def Message.AsksToClose (m : Message) : Prop :=
  ∃ r, ServerRequest.ofMessage m = .ok r ∧ r.commandType = some .close ∧ r.command = none ∧ r.arguments = [] ∧
    r.view.Shows {} ∧ r.view.dataWords = []

/-- The shape of a message with a type and nothing else. -/
def Shape.bare (type : CommandType) : Shape := { messageType := type.code }

theorem View.shows_bare (m : Message) (type : CommandType) :
    View.Shows ⟨m, .bare type, Layout.ofShape (.bare type)⟩ {} where
  copyHandles := rfl
  moveHandles := rfl
  sendStatics := rfl
  sendBuffers := rfl
  recvBuffers := rfl
  exchBuffers := rfl
  recvList := rfl
  pid := rfl

theorem Shape.validate_bare (type : CommandType) : (bare type).validate = .ok () := rfl

theorem Shape.stop_bare (type : CommandType) : (Layout.ofShape (bare type)).stop ≤ Message.size := by
  show Header.width ≤ Message.size
  decide

namespace Service

/-- The message that tells a server that its session ends. -/
def closeMessage : Message := Frame.blank (.bare .close)

theorem close_on (m : Message) : Request.close.on m = (.ok (), closeMessage) := by
  have hstart : (Frame.start { messageType := CommandType.close.code }).on m = (.ok _, closeMessage) :=
    Frame.start_of_fits (Shape.validate_bare _) (Shape.stop_bare _) m
  unfold Request.close
  rw [Attempt.on_bind, Attempt.on_mapError, hstart]
  rfl

theorem closeMessage_asksToClose : closeMessage.AsksToClose := by
  have hview := View.ofMessage_of_headers (Shape.validate_bare .close) (Frame.bytes_blank (.bare .close))
    (Shape.stop_bare .close)
  refine ⟨⟨some .close, ⟨closeMessage, .bare .close, Layout.ofShape (.bare .close)⟩, none, []⟩, ?_, rfl, rfl, rfl,
    View.shows_bare _ _, rfl⟩
  unfold ServerRequest.ofMessage closeMessage
  rw [hview]
  rfl

/-! ## the report -/

variable {sent : Except SendError Answer} {closed : Except HorizonIpc.CloseError Unit}

/-- What is reported of a send and a close: the close comes first. -/
def report (sent : Except SendError Answer) (closed : Except HorizonIpc.CloseError Unit) :
    Except Service.CloseError Unit :=
  match closed with
  | .error e => .error (.handle e)
  | .ok () => (sent.map fun _ => ()).mapError .send

/-- **Closing a service as a tree**: a send and a close, whatever is answered. -/
theorem close_eq (s : Service) :
    s.close = .send s.session ⟨closeMessage, []⟩ fun sent =>
      .close s.session.raw fun closed => .done (report sent closed) := by
  have hsend : sendClose s.session = .send s.session ⟨closeMessage, []⟩ fun sent =>
      .done ((sent.map fun _ => ()).mapError .send) := by
    unfold sendClose
    rw [close_on]
    refine congrArg (Client.send _ _) (funext fun sent => ?_)
    cases sent <;> rfl
  unfold close
  rw [hsend]
  refine congrArg (Client.send _ _) (funext fun sent => congrArg (Client.close _) (funext fun closed => ?_))
  cases closed <;> rfl

/-- **The status of the first of the two steps that failed.** -/
inductive FirstFails : Except SendError Answer → Except HorizonIpc.CloseError Unit → UInt32 → Prop
  | send (e : SendError) (closed : Except HorizonIpc.CloseError Unit) : FirstFails (.error e) closed (Coded.status e)
  | close (answer : Answer) (e : HorizonIpc.CloseError) : FirstFails (.ok answer) (.error e) (Coded.status e)

theorem firstFails_error_iff {e : SendError} {status : UInt32} :
    FirstFails (.error e) closed status ↔ status = Coded.status e := by
  constructor
  · rintro ⟨⟩
    rfl
  · rintro rfl
    exact .send e closed

/-- **What is told of a session that was ended**, by what came of the send and of the close.  A request that can always
be built is never what failed. -/
structure Ended (sent : Except SendError Answer) (closed : Except HorizonIpc.CloseError Unit)
    (value : Except Service.CloseError Unit) : Prop where
  ok_iff : value = .ok () ↔ (∃ answer, sent = .ok answer) ∧ closed = .ok ()
  handle_iff : ∀ e, value = .error (.handle e) ↔ closed = .error e
  send_iff : ∀ e, value = .error (.send e) ↔ sent = .error e ∧ closed = .ok ()
  built : ∀ e, value ≠ .error (.build e)
  first_iff : ∀ e, value = .error e →
    (FirstFails sent closed (Coded.status e) ↔
      ∀ e₁ e₂, sent = .error e₁ → closed = .error e₂ → Coded.status e₁ = Coded.status e₂)

theorem ended_report (sent : Except SendError Answer) (closed : Except HorizonIpc.CloseError Unit) :
    Ended sent closed (report sent closed) := by
  rcases sent with e₁ | answer <;> rcases closed with e₂ | _
  case ok.ok => constructor <;> simp [report, Except.map]
  case error.ok =>
    constructor
    case first_iff =>
      rintro e ⟨⟩
      exact iff_of_true (.send e₁ _) nofun
    all_goals simp [report, Except.map, eq_comm]
  case ok.error =>
    constructor
    case first_iff =>
      rintro e ⟨⟩
      exact iff_of_true (.close answer e₂) nofun
    all_goals simp [report, eq_comm]
  case error.error =>
    constructor
    -- both failed, and it is the second that is told
    case first_iff =>
      rintro e ⟨⟩
      rw [firstFails_error_iff]
      constructor
      · rintro h _ _ ⟨⟩ ⟨⟩
        exact h.symm
      · exact fun h => (h e₁ e₂ rfl rfl).symm
    all_goals simp [report, eq_comm]

/-- **Closing a service tells the server and closes the handle**, each once and in this order, whatever the session and
whatever answers.  It succeeds exactly if both do, and fails with the status of the first that failed exactly if not
both fail with different statuses: of two failures the close's is reported. -/
theorem close_reports (s : Service) {σ : Type} (t : Transport σ) (state : σ) :
    let sent := t.send s.session ⟨closeMessage, []⟩ state
    let closed := t.close s.session.raw sent.2
    let run := s.close.run t state
    closeMessage.AsksToClose ∧
      run.events = [.sent s.session ⟨closeMessage, []⟩ sent.1, .closed s.session.raw closed.1] ∧
      Ended sent.1 closed.1 run.value ∧ (NameService.close ⟨s⟩).run t state = run := by
  intro sent closed run
  have hrun : run = s.close.run t state := rfl
  rw [close_eq] at hrun
  refine ⟨closeMessage_asksToClose, congrArg Run.events hrun, ?_, rfl⟩
  rw [hrun]
  exact ended_report sent.1 closed.1

/-- The session breaks, and then its handle is refused: the second failure is reported, with a status that is not that
of the first. -/
theorem close_reports_masked :
    let t : Transport Unit := {
      send := fun _ _ u => (.error .sessionClosed, u)
      close := fun _ u => (.error .invalidHandle, u) }
    let run := (close ⟨⟨5⟩, 0⟩).run t ()
    ∃ e, run.events = [.sent ⟨5⟩ ⟨closeMessage, []⟩ (.error .sessionClosed), .closed 5 (.error .invalidHandle)] ∧
      run.value = .error e ∧ ¬ FirstFails (.error .sessionClosed) (.error .invalidHandle) (Coded.status e) := by
  intro t run
  have hrun : run = (close ⟨⟨5⟩, 0⟩).run t () := rfl
  rw [close_eq] at hrun
  refine ⟨.handle .invalidHandle, congrArg Run.events hrun, congrArg Run.value hrun, ?_⟩
  rw [firstFails_error_iff]
  decide

end Service
end HorizonIpc
