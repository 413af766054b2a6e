import HorizonIpc.Parcel.Basic
/-!
# Parcel.RemoteStatus — the status inside a reply

The remote object reports in the reply parcel, as a signed word, how it went.  Words from zero up are success; the
negative ones that the client knows have names, and every other is kept as it came.
-/
namespace HorizonIpc

/-- What went wrong at the remote object. -/
inductive RemoteError where
  | permissionDenied
  | nameNotFound
  | wouldBlock
  | noMemory
  | alreadyExists
  | noInit
  | badValue
  | deadObject
  | invalidOperation
  | notEnoughData
  | unknownTransaction
  | badIndex
  | timedOut
  | fdsNotAllowed
  | failedTransaction
  | badType
  /-- Any other negative word. -/
  | unknown (code : Int32)
  deriving DecidableEq

namespace RemoteError

def known : List (Int × RemoteError) :=
  [(-1, permissionDenied), (-2, nameNotFound), (-11, wouldBlock), (-12, noMemory), (-17, alreadyExists), (-19, noInit),
    (-22, badValue), (-32, deadObject), (-38, invalidOperation), (-61, notEnoughData), (-74, unknownTransaction),
    (-75, badIndex), (-110, timedOut), (-2147483647, badType), (-2147483646, failedTransaction),
    (-2147483641, fdsNotAllowed)]

def check (code : Int32) : Except RemoteError Unit :=
  if 0 ≤ code.toInt then .ok ()
  else match known.lookup code.toInt with
    | some e => .error e
    | none => .error (unknown code)

instance : Fault RemoteError where
  label
    | permissionDenied => "PermissionDenied"
    | nameNotFound => "NameNotFound"
    | wouldBlock => "WouldBlock"
    | noMemory => "NoMemory"
    | alreadyExists => "AlreadyExists"
    | noInit => "NoInit"
    | badValue => "BadValue"
    | deadObject => "DeadObject"
    | invalidOperation => "InvalidOperation"
    | notEnoughData => "NotEnoughData"
    | unknownTransaction => "UnknownTransaction"
    | badIndex => "BadIndex"
    | timedOut => "TimedOut"
    | fdsNotAllowed => "FdsNotAllowed"
    | failedTransaction => "FailedTransaction"
    | badType => "BadType"
    | unknown code => Fault.nested "Unknown" (toString code.toInt)
  message
    | permissionDenied => "permission denied"
    | nameNotFound => "name not found"
    | wouldBlock => "would block"
    | noMemory => "no memory"
    | alreadyExists => "already exists"
    | noInit => "not initialized"
    | badValue => "bad value"
    | deadObject => "dead object"
    | invalidOperation => "invalid operation"
    | notEnoughData => "not enough data"
    | unknownTransaction => "unknown transaction"
    | badIndex => "bad index"
    | timedOut => "timed out"
    | fdsNotAllowed => "FDs not allowed"
    | failedTransaction => "failed transaction"
    | badType => "bad type"
    | unknown code => "unknown binder error: " ++ toString code.toInt
  causes _ := []

/-- Reads a status word and says what it says. -/
def read : Attempt Parcel Parcel.Error (Except RemoteError Unit) := check <$> Parcel.readInt32

end RemoteError
end HorizonIpc
