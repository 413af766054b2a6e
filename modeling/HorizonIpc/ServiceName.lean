import HorizonIpc.Text
/-!
# ServiceName — the names under which services are looked up

A service name is up to eight ASCII characters in a field of eight bytes, with zeros behind them.  The field read as a
little-endian word is the key of the lookup.  `ofString?` takes exactly the names that fit; `truncate` cuts a text down
to what fits, and is meant for names written into a program.
-/
namespace HorizonIpc

/-- A service name in its field. -/
structure ServiceName where
  bytes : Bytes
  size_eq : bytes.length = 8
  deriving DecidableEq

/-- Why a text cannot be cut down to a service name. -/
inductive ServiceName.TruncateError where
  | notAscii
  deriving DecidableEq

namespace ServiceName

/-- What a caller is told who cuts down a text that is not ASCII. -/
def TruncateError.message : TruncateError → String
  | notAscii => "service name must be ASCII"

/-- The longest name, in bytes. -/
def maxLength : Nat := 8

/-- The name of the first eight of the given bytes. -/
def ofBytes (bs : Bytes) : ServiceName :=
  ⟨bs.take 8 ++ List.replicate (8 - bs.length) 0, by
    simp only [List.length_append, List.length_take, List.length_replicate]; omega⟩

def empty : ServiceName := ofBytes []

instance : Inhabited ServiceName := ⟨empty⟩

/-- The name that a text spells; none if the text is longer than eight bytes, or has a NUL or a character outside
ASCII. -/
def ofString? (s : String) : Option ServiceName :=
  let bs := Text.utf8 s
  if bs.length ≤ maxLength ∧ bs.all (fun b => Text.isAscii b && b != 0) then some (ofBytes bs) else none

/-- The name of the first eight bytes of a text, refused if they are not ASCII. -/
def truncate (s : String) : Except TruncateError ServiceName :=
  let bs := (Text.utf8 s).take maxLength
  if bs.all Text.isAscii then .ok (ofBytes bs) else .error .notAscii

def key (n : ServiceName) : UInt64 := Bytes.toUInt64 n.bytes

/-- The bytes before the first zero. -/
def textBytes (n : ServiceName) : Bytes := n.bytes.takeWhile (· != 0)

/-- How many bytes stand before the first zero. -/
def length (n : ServiceName) : Nat := n.textBytes.length

def isEmpty (n : ServiceName) : Bool := n.bytes.head? == some 0

def text (n : ServiceName) : String := Text.ofAscii n.textBytes

/-- The name moved right to fill a column. -/
def padded (n : ServiceName) (width : Nat) : String := Text.padLeft ' ' width n.text

end ServiceName
end HorizonIpc
