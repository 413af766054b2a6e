import HorizonIpc.Attempt
import HorizonIpc.Bytes
import HorizonIpc.Status
/-!
# Parcel.Area — one half of a parcel

An area is a fixed array of 1024 cells.  Values are appended behind the written extent and read from a cursor on; both
move in steps of four bytes.  The cells behind the extent keep what earlier contents left there: that none of it is ever
seen again is a property of the operations.
-/
namespace HorizonIpc
namespace Parcel

/-- Why a parcel operation fails. -/
inductive Error where
  | dataFull
  | objectsFull
  | underflow
  | invalidLength
  | invalidString
  | stringTooLong
  | fdsNotSupported
  | nullInterfaceToken
  | stagingTooSmall
  | replyOutOfBounds
  deriving DecidableEq

namespace Error

/-- Whether the other side broke the protocol, as opposed to the client misusing the parcel. -/
def isViolation : Error → Bool
  | replyOutOfBounds => true
  | _ => false

instance : Fault Error where
  label
    | dataFull => "DataFull"
    | objectsFull => "ObjectsFull"
    | underflow => "Underflow"
    | invalidLength => "InvalidLength"
    | invalidString => "InvalidString"
    | stringTooLong => "StringTooLong"
    | fdsNotSupported => "FdsNotSupported"
    | nullInterfaceToken => "NullInterfaceToken"
    | stagingTooSmall => "StagingTooSmall"
    | replyOutOfBounds => "ReplyOutOfBounds"
  message
    | dataFull => "parcel data region full"
    | objectsFull => "parcel objects region full"
    | underflow => "read past the end of the parcel"
    | invalidLength => "invalid length field"
    | invalidString => "invalid UTF-16 string"
    | stringTooLong => "string too long"
    | fdsNotSupported => "file descriptors are not supported"
    | nullInterfaceToken => "null interface token"
    | stagingTooSmall => "parcel does not fit the staging buffer"
    | replyOutOfBounds => "reply parcel out of bounds"
  causes _ := []

instance : Coded Error := ⟨fun _ => Coded.status ClientStatus.badInput⟩

end Error

def capacity : Nat := 0x400

/-- The length of a value with the padding behind it. -/
def padded (len : Nat) : Nat := alignUp 4 len

/-- One half of a parcel. -/
structure Area where
  /-- The array, with what earlier contents left in it. -/
  cells : Bytes
  cells_length : cells.length = capacity
  extent : Nat
  cursor : Nat
  deriving DecidableEq

namespace Area

/-- The fresh area: zeros, and nothing written. -/
def empty : Area := ⟨List.replicate capacity 0, List.length_replicate, 0, 0⟩

def written (a : Area) : Bytes := a.cells.take a.extent

def free (a : Area) : Nat := capacity - a.extent

def rewind (a : Area) : Area := { a with cursor := 0 }

/-- The area with nothing written. -/
def clear (a : Area) : Area := { a with extent := 0, cursor := 0 }

/-- The area with the given bytes in place of what was written; at most `capacity` of them are kept. -/
def replace (a : Area) (bs : Bytes) : Area where
  cells := a.cells.overlay 0 bs
  cells_length := (Bytes.length_overlay _ _ _).trans a.cells_length
  extent := bs.length
  cursor := 0

/-- Appends a value and zeros up to the next multiple of four, or fails with `full`. -/
def append (full : Error) (bs : Bytes) : Attempt Area Error Unit := do
  let a ← get
  if padded bs.length > a.free then throw full
  set { a with
    cells := a.cells.overlay a.extent (bs ++ List.replicate (padded bs.length - bs.length) 0)
    cells_length := (Bytes.length_overlay _ _ _).trans a.cells_length
    extent := a.extent + padded bs.length }

/-- Reads `len` bytes and skips the padding behind them. -/
def take (len : Nat) : Attempt Area Error Bytes := do
  let a ← get
  if a.cursor + padded len > a.extent then throw .underflow
  set { a with cursor := a.cursor + padded len }
  return a.written.window a.cursor len

end Area
end Parcel
end HorizonIpc
