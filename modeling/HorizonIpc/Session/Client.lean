import HorizonIpc.Command.Builder
import HorizonIpc.Frame.Message
import HorizonIpc.Session.Failure
/-!
# Session.Client — sessions and programs that talk to them

A client does three things to the world around it: it sends a message on a session and waits for the answer, it closes a
handle, and it leaves notices for whoever watches.  A `Client α` is such a program with a result: a tree that branches
on what it is answered.  What answers is not fixed here (see `Transport`).

A session is named by a handle, a word in the caller's handle table; zero names nothing.  `SessionHandle` marks the
handles of the client ends of sessions.

A send lends the server the buffers that the message names.  What the server wrote into them comes back with the answer
as `Store`s, and `Buffer.after` says what a buffer then holds.
-/
namespace HorizonIpc

/-- The handle of the client end of a session. -/
structure SessionHandle where
  raw : UInt32
  deriving DecidableEq

namespace SessionHandle

/-- The handle word that names nothing. -/
def invalid : UInt32 := 0

def isValid (h : SessionHandle) : Bool := h.raw != invalid

instance : Ord SessionHandle := ⟨fun a b => compare a.raw b.raw⟩

def label (h : SessionHandle) : String := "Handle(" ++ toString h.raw.toNat ++ ")"

end SessionHandle

/-- The two kernel calls behind everything that a client does with sessions. -/
inductive KernelCall where
  | closeHandle
  | sendRequest
  deriving DecidableEq

def KernelCall.number : KernelCall → Nat
  | closeHandle => 0x16
  | sendRequest => 0x21

/-- A buffer in the client's memory. -/
structure Buffer where
  address : UInt64
  bytes : Bytes
  deriving DecidableEq

/-- Bytes that a server put into the client's memory. -/
structure Store where
  address : UInt64
  bytes : Bytes
  deriving DecidableEq

namespace Buffer

def region (b : Buffer) : Region := ⟨b.address, b.bytes.length⟩

/-- The buffer with what one store put into it; bytes that miss it are dropped. -/
def store (b : Buffer) (s : Store) : Buffer :=
  if b.address ≤ s.address then
    { b with bytes := Bytes.overlay b.bytes (s.address.toNat - b.address.toNat) s.bytes }
  else b

/-- The buffer after the stores of an answer, in their order. -/
def after (b : Buffer) (stores : List Store) : Buffer := stores.foldl store b

theorem length_store (b : Buffer) (s : Store) : (b.store s).bytes.length = b.bytes.length := by
  unfold store; split <;> simp

/-- **A buffer keeps its size** whatever is put into it. -/
@[simp] theorem length_after (b : Buffer) : ∀ stores : List Store, (b.after stores).bytes.length = b.bytes.length
  | [] => rfl
  | s :: rest => (length_after (b.store s) rest).trans (length_store b s)

end Buffer

/-- What a send hands over. -/
structure Exchange where
  message : Message
  buffers : List Buffer := []

/-- What a send that succeeded brings back. -/
structure Answer where
  message : Message
  stores : List Store := []
  deriving DecidableEq

/-- How much a notice matters. -/
inductive NoticeLevel where
  | debug
  | warn
  deriving DecidableEq

def NoticeLevel.label : NoticeLevel → String
  | debug => "DEBUG"
  | warn => "WARN"

/-- A line for whoever watches the client. -/
structure Notice where
  level : NoticeLevel
  text : String
  deriving DecidableEq

/-- A program of a client with a result of type `α`. -/
inductive Client (α : Type) : Type where
  | done (a : α)
  | send (session : SessionHandle) (exchange : Exchange) (next : Except SendError Answer → Client α)
  | close (handle : UInt32) (next : Except CloseError Unit → Client α)
  | note (notice : Notice) (rest : Client α)

namespace Client

variable {α β γ : Type}

/-- One program after the other; the second may depend on the result of the first. -/
def bind : Client α → (α → Client β) → Client β
  | done a, f => f a
  | send session exchange next, f => .send session exchange fun r => (next r).bind f
  | close handle next, f => .close handle fun r => (next r).bind f
  | note notice rest, f => .note notice (rest.bind f)

instance : Monad Client where
  pure := done
  bind := bind

def sendOn (session : SessionHandle) (exchange : Exchange) : Client (Except SendError Answer) :=
  send session exchange done

def closeHandle (handle : UInt32) : Client (Except CloseError Unit) := close handle done

def notice (level : NoticeLevel) (text : String) : Client Unit := note ⟨level, text⟩ (done ())

theorem bind_done : ∀ x : Client α, x.bind done = x
  | done _ => rfl
  | send session exchange next => by simp only [bind, bind_done]
  | close handle next => by simp only [bind, bind_done]
  | note notice rest => by simp only [bind, bind_done]

theorem bind_assoc : ∀ (x : Client α) (f : α → Client β) (g : β → Client γ),
    (x.bind f).bind g = x.bind fun a => (f a).bind g
  | done _, _, _ => rfl
  | send session exchange next, f, g => by simp only [bind, bind_assoc]
  | close handle next, f, g => by simp only [bind, bind_assoc]
  | note notice rest, f, g => by simp only [bind, bind_assoc]

instance : LawfulMonad Client := LawfulMonad.mk' Client bind_done (fun _ _ => rfl) bind_assoc

end Client
end HorizonIpc
