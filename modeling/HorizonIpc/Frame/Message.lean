import HorizonIpc.Bytes
/-!
# Frame.Message — the message buffer

A message is always the 256 bytes that the kernel reads from the calling thread's message area and writes back with the
reply.  Reading cuts a window out; writing replaces a part and keeps the size, so a message stays a message.
-/
namespace HorizonIpc

/-- A message buffer. -/
structure Message where
  bytes : Bytes
  size_eq : bytes.length = 256
  deriving DecidableEq

namespace Message

def size : Nat := 256

def filled (b : UInt8) : Message := ⟨List.replicate 256 b, List.length_replicate⟩

def zero : Message := filled 0

instance : Inhabited Message := ⟨zero⟩

/-- The message with `new` written from offset `start` on; what would lie behind the end is dropped. -/
def write (m : Message) (start : Nat) (new : Bytes) : Message :=
  ⟨m.bytes.overlay start new, by rw [Bytes.length_overlay, m.size_eq]⟩

/-- The message that starts with the given bytes and goes on with zeros. -/
def ofBytes (bs : Bytes) : Message := zero.write 0 bs

/-- Up to `len` bytes from offset `start` on. -/
def window (m : Message) (start len : Nat) : Bytes := m.bytes.window start len

def word (m : Message) (start : Nat) : UInt32 := Bytes.toUInt32 (m.window start 4)

/-- The entries of a table: `count` windows of `stride` bytes from `start` on. -/
def entries (m : Message) (start stride count : Nat) : List Bytes :=
  (List.range count).map fun i => m.window (start + i * stride) stride

theorem ext_bytes {m n : Message} (h : m.bytes = n.bytes) : m = n := by
  cases m; cases n; cases h; rfl

@[simp] theorem bytes_write (m : Message) (start : Nat) (new : Bytes) :
    (m.write start new).bytes = m.bytes.overlay start new := rfl

@[simp] theorem length_entries (m : Message) (start stride count : Nat) :
    (m.entries start stride count).length = count := by
  simp [entries]

end Message
end HorizonIpc
