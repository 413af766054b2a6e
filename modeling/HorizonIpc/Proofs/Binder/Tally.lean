import HorizonIpc.Binder.Lifecycle
import HorizonIpc.Proofs.Session.Call
/-!
# Proofs.Binder.Tally — what is held, read off the events

How many references to an object are held and which native handles are outstanding is a matter of the events alone: a
request is counted by what its message says to the relay.  `Tally` is this account, and the `tally_` lemmas say how each
kind of event changes it.
-/
namespace HorizonIpc

namespace Event

/-- The arguments of the request that an event sent, if it is a request for that command of a service. -/
def asked? (command : UInt32) : Event → Option Bytes
  | .sent _ exchange _ =>
    match ServerRequest.ofMessage exchange.message with
    | .ok r => if r.commandType = some .request ∧ r.command = some command then some r.arguments else none
    | .error _ => none
  | .closed _ _ | .noticed _ => none

/-- The reply that an event brought, if it is accepted. -/
def reply? : Event → Option Response
  | .sent _ _ (.ok answer) => (Response.ofMessage answer.message 0).toOption
  | _ => none

/-- Whether an event asks the relay to add an amount to a reference count of an object. -/
def adjusts (object amount : Int32) (kind : RefKind) (e : Event) : Bool :=
  match e.asked? Relay.adjustCommand with
  | some arguments => decide (Relay.signed object ++ Relay.signed amount ++ Relay.signed kind.code <+: arguments)
  | none => false

/-- The native handle of an object that an event brought, if it is one: the relay was asked for it, and the first handle
copied with an accepted reply is not zero. -/
def obtained? (object : Int32) (e : Event) : Option UInt32 :=
  match e.asked? Relay.nativeHandleCommand with
  | some arguments =>
    if Relay.signed object <+: arguments then
      e.reply?.bind fun r => r.copyHandles.head?.filter (· ≠ SessionHandle.invalid)
    else none
  | none => none

/-- The handle that an event attempted to close. -/
def closed? : Event → Option UInt32
  | .closed handle _ => some handle
  | .sent _ _ _ | .noticed _ => none

/-- How many references of a kind are held: one for each successful increase, less one for each decrease attempted. -/
def held (object : Int32) (kind : RefKind) (events : List Event) : Int :=
  events.countP (fun e => e.adjusts object 1 kind && e.reply?.isSome) -
    events.countP (fun e => e.adjusts object (-1) kind)

/-- The native handles obtained, in their order. -/
def obtained (object : Int32) (events : List Event) : List UInt32 := events.filterMap (·.obtained? object)

/-- The handles that were to be closed, in their order. -/
def discarded (events : List Event) : List UInt32 := events.filterMap (·.closed?)

variable {object : Int32} {past : List Event} {e : Event}

/-- The change that an event makes to the references of a kind. -/
theorem held_append (kind : RefKind) :
    held object kind (past ++ [e]) = held object kind past +
      ((if e.adjusts object 1 kind && e.reply?.isSome then 1 else 0) -
        (if e.adjusts object (-1) kind then 1 else 0)) := by
  unfold held
  rw [List.countP_append, List.countP_append, List.countP_singleton, List.countP_singleton]
  split <;> split <;> omega

theorem obtained_append : obtained object (past ++ [e]) = obtained object past ++ (e.obtained? object).toList := by
  unfold obtained
  rw [List.filterMap_append]
  cases h : e.obtained? object <;> simp [h]

theorem invalid_not_mem_obtained {events : List Event} : SessionHandle.invalid ∉ obtained object events := by
  intro h
  obtain ⟨e, -, he⟩ := List.mem_filterMap.1 h
  unfold obtained? at he
  cases ha : e.asked? Relay.nativeHandleCommand with
  | none => simp [ha] at he
  | some arguments => simp [ha, Option.bind_eq_some_iff, Option.filter_eq_some_iff] at he

theorem discarded_append : discarded (past ++ [e]) = discarded past ++ e.closed?.toList := by
  unfold discarded
  rw [List.filterMap_append]
  cases h : e.closed? <;> simp [h]

end Event

/-- What is held and what was given up. -/
structure Tally where
  strong : Int
  weak : Int
  obtained : List UInt32
  discarded : List UInt32

namespace Tally

def of (object : Int32) (events : List Event) : Tally :=
  ⟨Event.held object .strong events, Event.held object .weak events, Event.obtained object events,
    Event.discarded events⟩

def add (t : Tally) (amount : Int) : RefKind → Tally
  | .strong => { t with strong := t.strong + amount }
  | .weak => { t with weak := t.weak + amount }

/-- One more native handle, unless it is zero. -/
def obtain (t : Tally) (handle : UInt32) : Tally :=
  if handle = SessionHandle.invalid then t else { t with obtained := t.obtained ++ [handle] }

def discard (t : Tally) (handle : UInt32) : Tally := { t with discarded := t.discarded ++ [handle] }

variable {object : Int32} {past : List Event} {e : Event}

/-- An event that neither changes a reference count nor brings or closes a handle changes nothing. -/
theorem of_append_neutral (ha : e.asked? Relay.adjustCommand = none) (hn : e.asked? Relay.nativeHandleCommand = none)
    (hc : e.closed? = none) : of object (past ++ [e]) = of object past := by
  have hadjusts : ∀ amount kind, e.adjusts object amount kind = false := fun amount kind => by
    unfold Event.adjusts
    rw [ha]
  have hobtained : e.obtained? object = none := by
    unfold Event.obtained?
    rw [hn]
  unfold of
  rw [Event.held_append, Event.held_append, Event.obtained_append, Event.discarded_append, hobtained, hc]
  simp [hadjusts]

theorem of_append_noticed (n : Notice) : of object (past ++ [.noticed n]) = of object past :=
  of_append_neutral rfl rfl rfl

theorem of_append_closed (handle : UInt32) (outcome : Except CloseError Unit) :
    of object (past ++ [.closed handle outcome]) = (of object past).discard handle := by
  unfold of discard
  rw [Event.held_append, Event.held_append, Event.obtained_append, Event.discarded_append]
  simp [Event.adjusts, Event.obtained?, Event.closed?, Event.asked?]

theorem signed_inj {a b : Int32} (h : Relay.signed a = Relay.signed b) : a = b := by
  have := congrArg Bytes.toUInt32 h
  unfold Relay.signed at this
  rw [Bytes.toUInt32_ofUInt32_self, Bytes.toUInt32_ofUInt32_self] at this
  exact congrArg Int32.ofUInt32 this

theorem length_signed (a : Int32) : (Relay.signed a).length = 4 := Bytes.length_ofUInt32 _

theorem code_inj {k k' : RefKind} (h : k.code = k'.code) : k = k' := by
  cases k <;> cases k' <;> first | rfl | exact absurd h (by decide)

/-- **The arguments of a request to change a count** say by how much and which. -/
theorem adjusts_iff {amount : Int32} {kind : RefKind} {arguments : Bytes}
    (ha : e.asked? Relay.adjustCommand = some arguments)
    (hp : Relay.signed object ++ Relay.signed amount ++ Relay.signed kind.code <+: arguments) (amount' : Int32)
    (kind' : RefKind) : e.adjusts object amount' kind' = decide (amount' = amount ∧ kind' = kind) := by
  unfold Event.adjusts
  rw [ha]
  by_cases h : amount' = amount ∧ kind' = kind
  · obtain ⟨rfl, rfl⟩ := h
    exact (decide_eq_true hp).trans (decide_eq_true ⟨rfl, rfl⟩).symm
  · refine (decide_eq_false fun hp' => h ?_).trans (decide_eq_false h).symm
    have heq := List.prefix_of_prefix_length_le hp' hp (by simp [length_signed])
    have heq := heq.eq_of_length (by simp [length_signed])
    obtain ⟨hleft, hkind⟩ := List.append_inj heq (by simp [length_signed])
    exact ⟨signed_inj (List.append_cancel_left hleft), code_inj (signed_inj hkind)⟩

variable {amount : Int32} {kind : RefKind} {arguments : Bytes}

/-- A request to change a count changes that count alone. -/
theorem of_append_adjust (ha : e.asked? Relay.adjustCommand = some arguments)
    (hn : e.asked? Relay.nativeHandleCommand = none) (hc : e.closed? = none)
    (hp : Relay.signed object ++ Relay.signed amount ++ Relay.signed kind.code <+: arguments) :
    of object (past ++ [e]) = (of object past).add
      ((if e.adjusts object 1 kind && e.reply?.isSome then 1 else 0) -
        (if e.adjusts object (-1) kind then 1 else 0)) kind := by
  have hobtained : e.obtained? object = none := by
    unfold Event.obtained?
    rw [hn]
  have hother : ∀ k, k ≠ kind → ∀ amount', e.adjusts object amount' k = false := fun k hk amount' => by
    rw [adjusts_iff ha hp]
    exact decide_eq_false fun h => hk h.2
  unfold of
  rw [Event.held_append, Event.held_append, Event.obtained_append, Event.discarded_append, hobtained, hc]
  cases kind with
  | strong =>
    rw [hother .weak (by decide), hother .weak (by decide)]
    simp [add]
  | weak =>
    rw [hother .strong (by decide), hother .strong (by decide)]
    simp [add]

/-- **An increase** counts if its reply is accepted. -/
theorem of_append_increase (past : List Event) (ha : e.asked? Relay.adjustCommand = some arguments)
    (hn : e.asked? Relay.nativeHandleCommand = none) (hc : e.closed? = none)
    (hp : Relay.signed object ++ Relay.signed 1 ++ Relay.signed kind.code <+: arguments) :
    of object (past ++ [e]) = (of object past).add (if e.reply?.isSome then 1 else 0) kind := by
  have hup : e.adjusts object 1 kind = true := (adjusts_iff ha hp 1 kind).trans (decide_eq_true ⟨rfl, rfl⟩)
  have hdown : e.adjusts object (-1) kind = false :=
    (adjusts_iff ha hp (-1) kind).trans (decide_eq_false fun h => absurd h.1 (by decide))
  rw [of_append_adjust ha hn hc hp, hup, hdown, Bool.true_and]
  simp

/-- **A decrease** counts whatever comes of it. -/
theorem of_append_decrease (ha : e.asked? Relay.adjustCommand = some arguments)
    (hn : e.asked? Relay.nativeHandleCommand = none) (hc : e.closed? = none)
    (hp : Relay.signed object ++ Relay.signed (-1) ++ Relay.signed kind.code <+: arguments) :
    of object (past ++ [e]) = (of object past).add (-1) kind := by
  have hup : e.adjusts object 1 kind = false :=
    (adjusts_iff ha hp 1 kind).trans (decide_eq_false fun h => absurd h.1 (by decide))
  have hdown : e.adjusts object (-1) kind = true :=
    (adjusts_iff ha hp (-1) kind).trans (decide_eq_true ⟨rfl, rfl⟩)
  rw [of_append_adjust ha hn hc hp, hup, hdown]
  simp

/-- **A request for a native handle** brings the first handle that an accepted reply copies, unless that is zero. -/
theorem of_append_nativeHandle (past : List Event) (ha : e.asked? Relay.adjustCommand = none)
    (hn : e.asked? Relay.nativeHandleCommand = some arguments) (hc : e.closed? = none)
    (hp : Relay.signed object <+: arguments) :
    of object (past ++ [e]) =
      (of object past).obtain ((e.reply?.bind fun r => r.copyHandles.head?).getD SessionHandle.invalid) := by
  have hadjusts : ∀ amount kind, e.adjusts object amount kind = false := fun amount kind => by
    unfold Event.adjusts
    rw [ha]
  have hobtained : e.obtained? object =
      (e.reply?.bind fun r => r.copyHandles.head?).filter (· ≠ SessionHandle.invalid) := by
    unfold Event.obtained?
    rw [hn]
    show (if _ then _ else _) = _
    rw [if_pos hp]
    cases e.reply? <;> rfl
  unfold of obtain
  rw [Event.held_append, Event.held_append, Event.obtained_append, Event.discarded_append, hobtained, hc]
  cases e.reply?.bind fun r => r.copyHandles.head? with
  | none => simp [hadjusts]
  | some handle =>
    by_cases h : handle = SessionHandle.invalid
    · simp [hadjusts, h]
    · simp [hadjusts, h]

end Tally
end HorizonIpc
