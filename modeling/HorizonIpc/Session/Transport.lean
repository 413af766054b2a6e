import HorizonIpc.Session.Client
/-!
# Session.Transport — what answers a client

A transport answers sends and closes from a state of its own.  Running a client on a transport gives the client's
result, the transport's last state and the events in between; `run_bind` says that running one program after another
runs the first and then the second.
-/
namespace HorizonIpc

/-- Something that answers sends and closes. -/
structure Transport (σ : Type) where
  send : SessionHandle → Exchange → σ → Except SendError Answer × σ
  close : UInt32 → σ → Except CloseError Unit × σ

/-- One thing that happened while a client ran. -/
inductive Event where
  | sent (session : SessionHandle) (exchange : Exchange) (answer : Except SendError Answer)
  | closed (handle : UInt32) (outcome : Except CloseError Unit)
  | noticed (notice : Notice)

/-- How a run of a client ended. -/
structure Run (σ α : Type) where
  value : α
  events : List Event
  state : σ

namespace Client

variable {σ α β : Type}

def run (t : Transport σ) : Client α → σ → Run σ α
  | .done a, s => ⟨a, [], s⟩
  | .send session exchange next, s =>
    let (answer, s) := t.send session exchange s
    let rest := (next answer).run t s
    { rest with events := .sent session exchange answer :: rest.events }
  | .close handle next, s =>
    let (outcome, s) := t.close handle s
    let rest := (next outcome).run t s
    { rest with events := .closed handle outcome :: rest.events }
  | .note notice next, s =>
    let rest := next.run t s
    { rest with events := .noticed notice :: rest.events }

/-- **Running one program after another** runs the first and then the second. -/
theorem run_bind (t : Transport σ) : ∀ (x : Client α) (f : α → Client β) (s : σ),
    (x.bind f).run t s =
      ⟨((f (x.run t s).value).run t (x.run t s).state).value,
        (x.run t s).events ++ ((f (x.run t s).value).run t (x.run t s).state).events,
        ((f (x.run t s).value).run t (x.run t s).state).state⟩
  | .done _, _, _ => rfl
  | .send session exchange next, f, s => by simp only [bind, run, run_bind, List.cons_append]
  | .close handle next, f, s => by simp only [bind, run, run_bind, List.cons_append]
  | .note notice rest, f, s => by simp only [bind, run, run_bind, List.cons_append]

end Client
end HorizonIpc
