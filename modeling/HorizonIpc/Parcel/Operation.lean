import HorizonIpc.Parcel.RemoteStatus
import HorizonIpc.Parcel.Wire
/-!
# Parcel.Operation — what can be done to a parcel

Every operation on a parcel as a value, and every answer as a value, so that runs of operations can be written down and
reasoned about.
-/
namespace HorizonIpc
namespace Parcel

/-- An operation on a parcel. -/
inductive Operation where
  | writeData (bs : Bytes)
  | writeInt32 (v : Int32)
  | writeUInt32 (v : UInt32)
  | writeInt64 (v : Int64)
  | writeUInt64 (v : UInt64)
  | writeString16 (s : String)
  | writeInterfaceToken (name : String)
  | writeFlattened (bs : Bytes)
  | writeObject (bs : Bytes)
  | readData (len : Nat)
  | readInt32
  | readUInt32
  | readInt64
  | readUInt64
  | readString16 (room : Nat)
  | readInterfaceToken (room : Nat)
  | readFlattened
  | readObject (len : Nat)
  | readStatus
  | rewind
  | clear
  | serialize (staging : Bytes)
  | deserialize (received : Bytes)
  deriving DecidableEq

/-- The answer of an operation. -/
inductive Answer where
  | done
  | bytes (bs : Bytes)
  | int32 (v : Int32)
  | uint32 (v : UInt32)
  | int64 (v : Int64)
  | uint64 (v : UInt64)
  /-- A text read, or the null text. -/
  | text (s : Option String)
  | status (r : Option RemoteError)
  | staged (used : Nat) (staging : Bytes)
  deriving DecidableEq

def perform : Operation → Attempt Parcel Error Answer
  | .writeData bs => (fun _ => .done) <$> writeData bs
  | .writeInt32 v => (fun _ => .done) <$> writeInt32 v
  | .writeUInt32 v => (fun _ => .done) <$> writeUInt32 v
  | .writeInt64 v => (fun _ => .done) <$> writeInt64 v
  | .writeUInt64 v => (fun _ => .done) <$> writeUInt64 v
  | .writeString16 s => (fun _ => .done) <$> writeString16 s
  | .writeInterfaceToken s => (fun _ => .done) <$> writeInterfaceToken s
  | .writeFlattened bs => (fun _ => .done) <$> writeFlattened bs
  | .writeObject bs => (fun _ => .done) <$> writeObject bs
  | .readData len => .bytes <$> readData len
  | .readInt32 => .int32 <$> readInt32
  | .readUInt32 => .uint32 <$> readUInt32
  | .readInt64 => .int64 <$> readInt64
  | .readUInt64 => .uint64 <$> readUInt64
  | .readString16 room => .text <$> readString16 room
  | .readInterfaceToken room => (fun s => .text (some s)) <$> readInterfaceToken room
  | .readFlattened => .bytes <$> readFlattened
  | .readObject len => .bytes <$> readObject len
  | .readStatus => (fun r => .status (match r with | .ok () => none | .error e => some e)) <$> RemoteError.read
  | .rewind => (fun _ => .done) <$> (modify rewind : Attempt Parcel Error PUnit)
  | .clear => (fun _ => .done) <$> (modify clear : Attempt Parcel Error PUnit)
  | .serialize staging => do
    let p ← get
    let (outcome, staging) := p.serialize.on staging
    let used ← Attempt.ofExcept outcome
    return .staged used staging
  | .deserialize received => (fun _ => .done) <$> deserialize received

end Parcel
end HorizonIpc
