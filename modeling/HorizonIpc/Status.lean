import HorizonIpc.Text
/-!
# Status — error types, and result words of the kernel and of services

A status is a 32-bit word.  Zero alone is success; any other word carries a module number in bits 0–8 and a
description in bits 9–21, and the ten bits above are kept but not looked at.  `ErrorCode` is a status word that is not
zero.

Each layer has its own error type, and an error of a lower layer is carried inside the error of the layer above.  A
`Fault` can be shown in two ways: by name with everything it carries (`label`), and as a sentence (`message`) followed
by the sentences of what lies below it (`causes`).  Errors that are handed to callers who only know status words are
`Coded` too.
-/
namespace HorizonIpc

/-- An error type whose values can be shown. -/
class Fault (ε : Type) where
  /-- The error by name, with what it carries in parentheses. -/
  label : ε → String
  /-- The error in one sentence. -/
  message : ε → String
  /-- The sentences of the errors below it, the nearest first. -/
  causes : ε → List String

/-- An error type whose values lower to a status word. -/
class Coded (ε : Type) where
  /-- The status word that stands for the error. -/
  status : ε → UInt32

namespace Fault

/-- The sentences of an error that lies below another: its own, then those below it. -/
def chain {ε : Type} [Fault ε] (e : ε) : List String := message e :: causes e

/-- A name with one value behind it in parentheses. -/
def nested (name inner : String) : String := name ++ "(" ++ inner ++ ")"

end Fault

namespace Status

def success : UInt32 := 0

/-- The word for a module and a description; bits that do not fit are dropped. -/
def pack (moduleId description : UInt32) : UInt32 :=
  (moduleId &&& (0x1FF : UInt32)) ||| ((description &&& (0x1FFF : UInt32)) <<< (9 : UInt32))

end Status

/-- A status word other than success. -/
structure ErrorCode where
  word : UInt32
  word_ne_zero : word ≠ 0
  deriving DecidableEq

namespace ErrorCode

/-- The error that a status word stands for; none for success. -/
def ofWord? (word : UInt32) : Option ErrorCode :=
  if h : word = 0 then none else some ⟨word, h⟩

/-- The module number, bits 0–8. -/
def moduleId (e : ErrorCode) : UInt32 := e.word &&& (0x1FF : UInt32)

/-- The description, bits 9–21. -/
def description (e : ErrorCode) : UInt32 := (e.word >>> (9 : UInt32)) &&& (0x1FFF : UInt32)

/-- The usual text of an error: 2000 plus the module, and the description, both in at least four digits. -/
def text (e : ErrorCode) : String :=
  Text.padLeft '0' 4 (toString (2000 + e.moduleId.toNat)) ++ "-" ++ Text.padLeft '0' 4 (toString e.description.toNat)

def label (e : ErrorCode) : String :=
  "Error \x7b code: " ++ e.text ++ ", module: " ++ toString e.moduleId.toNat ++ ", description: " ++
    toString e.description.toNat ++ ", raw: " ++ Text.hex e.word.toNat ++ " \x7d"

@[simp] theorem ofWord?_zero : ofWord? 0 = none := rfl

theorem ofWord?_eq_some_iff {w : UInt32} {e : ErrorCode} : ofWord? w = some e ↔ e.word = w := by
  obtain ⟨v, hv⟩ := e
  by_cases h : w = 0
  · subst h; simpa [ofWord?] using hv
  · simp only [ofWord?, h, ↓reduceDIte, Option.some.injEq, ErrorCode.mk.injEq]
    exact eq_comm

theorem ofWord?_eq_none_iff {w : UInt32} : ofWord? w = none ↔ w = 0 := by
  by_cases h : w = 0 <;> simp [ofWord?, h]

end ErrorCode

/-- The modules whose descriptions the library knows. -/
inductive StatusModule where
  | kernel
  | homebrew
  deriving DecidableEq

namespace StatusModule

def number : StatusModule → UInt32
  | kernel => 1
  | homebrew => 345

/-- The error with a description of this module. -/
def error? (m : StatusModule) (description : UInt32) : Option ErrorCode :=
  ErrorCode.ofWord? (Status.pack m.number description)

end StatusModule

/-- The kernel statuses that a client tells apart. -/
inductive KernelStatus where
  | terminationRequested
  | outOfResource
  | invalidHandle
  | sessionClosed
  deriving DecidableEq

namespace KernelStatus

def description : KernelStatus → UInt32
  | terminationRequested => 59
  | outOfResource => 103
  | invalidHandle => 114
  | sessionClosed => 123

/-- The kernel status with a description number, where the client knows it. -/
def ofDescription? (d : UInt32) : Option KernelStatus :=
  if d = 59 then some terminationRequested
  else if d = 103 then some outOfResource
  else if d = 114 then some invalidHandle
  else if d = 123 then some sessionClosed
  else none

def label : KernelStatus → String
  | terminationRequested => "TerminationRequested"
  | outOfResource => "OutOfResource"
  | invalidHandle => "InvalidHandle"
  | sessionClosed => "SessionClosed"

instance : Coded KernelStatus := ⟨fun k => Status.pack StatusModule.kernel.number k.description⟩

theorem ofDescription?_description (k : KernelStatus) : ofDescription? k.description = some k := by
  cases k <;> decide

end KernelStatus

/-- The statuses that the client itself reports, in the homebrew runtime's numbers. -/
inductive ClientStatus where
  | alreadyInitialized
  | notInitialized
  | badInput
  | invalidReplyHeader
  deriving DecidableEq

namespace ClientStatus

def description : ClientStatus → UInt32
  | alreadyInitialized => 7
  | notInitialized => 8
  | badInput => 11
  | invalidReplyHeader => 47

instance : Coded ClientStatus := ⟨fun c => Status.pack StatusModule.homebrew.number c.description⟩

end ClientStatus
end HorizonIpc
