import HorizonIpc.Command.Builder
import HorizonIpc.Command.Response
import HorizonIpc.Session.Client
/-!
# Session.Call — one command and its reply

A call lays its request out, sends it once, and reads the reply; it fails at the first of the three that fails.  What
the server put into the client's buffers is there whatever came of the reply.
-/
namespace HorizonIpc

/-- Why a call fails. -/
inductive CallError where
  | build (e : BuildError)
  | send (e : SendError)
  | reply (e : ReplyError)
  deriving DecidableEq

namespace CallError

instance : Fault CallError where
  label
    | build e => Fault.nested "Build" (Fault.label e)
    | send e => Fault.nested "SendRequest" (Fault.label e)
    | reply e => Fault.nested "ParseResponse" (Fault.label e)
  message
    | build _ => "failed to build request"
    | send _ => "failed to send request"
    | reply _ => "failed to parse response"
  causes
    | build e => Fault.chain e
    | send e => Fault.chain e
    | reply e => Fault.chain e

instance : Coded CallError where
  status
    | build e => Coded.status e
    | send e => Coded.status e
    | reply e => Coded.status e

end CallError

/-- Why a call fails that is to bring a handle back. -/
inductive FetchError where
  | call (e : CallError)
  | missingHandle
  deriving DecidableEq

namespace FetchError

instance : Fault FetchError where
  label
    | call e => Fault.label e
    | missingHandle => "MissingHandle"
  message
    | call e => Fault.message e
    | missingHandle => "missing handle in response"
  causes
    | call e => Fault.causes e
    | missingHandle => []

instance : Coded FetchError where
  status
    | call e => Coded.status e
    | missingHandle => Coded.status ClientStatus.invalidReplyHeader

end FetchError

/-- A command with everything that its request carries. -/
structure Call where
  /-- Whether the service or the session is called. -/
  type : CommandType := .request
  command : UInt32
  arguments : Bytes := []
  additions : List Builder.Addition := []
  buffers : List Buffer := []
  /-- How many bytes of data the reply must have. -/
  replySize : Nat := 0

namespace Call

def layOut (c : Call) : Attempt Message BuildError Unit := do
  let builder ← Attempt.ofExcept (Builder.collect c.additions)
  let slot ← Request.start builder c.type c.command c.arguments.length
  Request.putArguments slot c.arguments

/-- Makes the call on a session: its outcome, and what the server put into the client's buffers. -/
def exchange (c : Call) (session : SessionHandle) : Client (Except CallError Response × List Store) := do
  match c.layOut.on .zero with
  | (.error e, _) => return (.error (.build e), [])
  | (.ok (), message) =>
    match ← Client.sendOn session ⟨message, c.buffers⟩ with
    | .error e => return (.error (.send e), [])
    | .ok answer => return ((Response.ofMessage answer.message c.replySize).mapError .reply, answer.stores)

def ask (c : Call) (session : SessionHandle) : Client (Except CallError Response) := Prod.fst <$> c.exchange session

end Call
end HorizonIpc
