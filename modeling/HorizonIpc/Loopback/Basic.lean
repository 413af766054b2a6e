import HorizonIpc.Session.Transport
/-!
# Loopback.Basic — a transport inside the process

A loopback hands every message to a server that is a function, counts the sends, and remembers the handles closed.  The
next send or close can be made to fail before it takes effect.
-/
namespace HorizonIpc

/-- The state of a loopback transport. -/
structure Loopback (σ : Type) where
  /-- How many sends there were, failed ones too. -/
  calls : Nat := 0
  /-- What the next send fails with. -/
  failNext : Option SendError := none
  /-- What the next close fails with. -/
  failNextClose : Option CloseError := none
  closed : List UInt32 := []
  server : σ

namespace Loopback

variable {σ : Type}

/-- How many closed handles are remembered. -/
def maxClosed : Nat := 16

/-- Answers a send: with the failure that is due, with a refusal of a handle that names nothing, or as the server
answers. -/
def send (serve : SessionHandle → Exchange → σ → Except SendError Answer × σ) (session : SessionHandle) (e : Exchange)
    (l : Loopback σ) : Except SendError Answer × Loopback σ :=
  let l := { l with calls := l.calls + 1 }
  match l.failNext with
  | some failure => (.error failure, { l with failNext := none })
  | none =>
    if session.isValid then
      let (answer, server) := serve session e l.server
      (answer, { l with server })
    else (.error .invalidHandle, l)

/-- Answers a close: with a refusal of a handle that names nothing, with the failure that is due, or by remembering the
handle. -/
def close (handle : UInt32) (l : Loopback σ) : Except CloseError Unit × Loopback σ :=
  if handle = SessionHandle.invalid then (.error .invalidHandle, l)
  else match l.failNextClose with
    | some failure => (.error failure, { l with failNextClose := none })
    | none => (.ok (), { l with closed := if l.closed.length < maxClosed then l.closed ++ [handle] else l.closed })

def transport (serve : SessionHandle → Exchange → σ → Except SendError Answer × σ) : Transport (Loopback σ) where
  send := send serve
  close := close

end Loopback
end HorizonIpc
