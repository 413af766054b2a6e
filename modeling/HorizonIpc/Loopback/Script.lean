import HorizonIpc.Command.Server
import HorizonIpc.Loopback.Basic
/-!
# Loopback.Script — a server that plays prepared turns

A scripted server answers each request with the next turn of its script and keeps a record of what it was asked.  It
finds the client's memory the way a server does, by the addresses in the descriptors; a descriptor keeps only the low
bits of an address, so the lent buffer is the one that agrees in these.
-/
namespace HorizonIpc

/-- What a turn leaves in the message. -/
inductive TurnReply where
  | echo
  /-- The given bytes, and zeros behind them. -/
  | raw (bs : Bytes)
  /-- A reply; the request stays if the reply does not fit. -/
  | reply (r : Reply)
  deriving DecidableEq

/-- One turn of a script. -/
structure Turn where
  /-- The status of the send; any other than success ends the turn. -/
  status : UInt32 := 0
  output : Bytes := []
  reply : TurnReply := .echo
  patches : List (Nat × Bytes) := []
  deriving DecidableEq

/-- What a scripted server was asked. -/
structure Asked where
  session : SessionHandle
  request : Except ReplyError ServerRequest
  /-- What the client's input buffer held, if the request names one that was lent. -/
  input : Option Bytes

/-- A script that is being played. -/
structure Script where
  turns : List Turn
  asked : List Asked := []

namespace Script

def staticBits : Nat := 42

def entryBits : Nat := 48

def bufferBits : Nat := 58

/-- The lent buffer whose address agrees with the given one in its low bits. -/
def lent? (bits : Nat) (address : UInt64) (buffers : List Buffer) : Option Buffer :=
  buffers.find? fun b => b.address.toBitVec.setWidth bits == address.toBitVec.setWidth bits

/-- What a descriptor of the given size names in the lent buffers. -/
def named? (bits : Nat) (address : UInt64) (size : Nat) (buffers : List Buffer) : Option Bytes :=
  if buffers.isEmpty then none
  else if size = 0 then some []
  else (lent? bits address buffers).map fun b => b.bytes.take size

/-- The client's input: the first static sent, unless it is empty, or else the first mapped buffer sent. -/
def input? (v : View) (buffers : List Buffer) : Option Bytes :=
  let mapped := v.sendBuffers.head?.bind fun d => named? bufferBits d.address d.size buffers
  match v.sendStatics.head? with
  | some d => if d.size = 0 then mapped else named? staticBits d.address d.size.toNat buffers
  | none => mapped

/-- The store that puts bytes at the start of the client's output: the first receive list entry, unless it is empty, or
else the first mapped buffer to be filled. -/
def output? (v : View) (buffers : List Buffer) (bs : Bytes) : Option Store :=
  let put := fun bits address size =>
    (lent? bits address buffers).map fun b => (⟨b.address, bs.take size⟩ : Store)
  let mapped := v.recvBuffers.head?.bind fun d => put bufferBits d.address d.size
  match v.recvList.head? with
  | some e => if e.size = 0 then mapped else put entryBits e.address e.size.toNat
  | none => mapped

def answerMessage (t : Turn) (m : Message) : Message :=
  let m := match t.reply with
    | .echo => m
    | .raw bs => .ofBytes bs
    | .reply r => (r.write.on m).2
  t.patches.foldl (fun m (start, bs) => m.write start bs) m

def play (t : Turn) (request : Except ReplyError ServerRequest) (e : Exchange) : Except SendError Answer := do
  SendError.check t.status
  let store := match request with
    | .ok r => output? r.view e.buffers t.output
    | .error _ => none
  return ⟨answerMessage t e.message, store.toList⟩

/-- Records what is asked and plays the next turn; a script that is over has closed the session. -/
def serve (session : SessionHandle) (e : Exchange) (s : Script) : Except SendError Answer × Script :=
  let request := ServerRequest.ofMessage e.message
  let input := match request with
    | .ok r => input? r.view e.buffers
    | .error _ => none
  let asked := s.asked ++ [⟨session, request, input⟩]
  match s.turns with
  | [] => (.error .sessionClosed, { s with asked })
  | t :: rest => (play t request e, ⟨rest, asked⟩)

def transport : Transport (Loopback Script) := Loopback.transport serve

end Script
end HorizonIpc
