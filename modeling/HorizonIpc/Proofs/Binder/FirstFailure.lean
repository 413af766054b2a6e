import HorizonIpc.Proofs.Binder.Commands
/-!
# Proofs.Binder.FirstFailure — the first failure is the one that is reported

Acquiring an object, releasing it and opening a session are several round trips each, and any of them may fail.  The
caller is told of the first that failed, whatever comes of cleaning up behind it, and the status that the error comes
down to is that of the failing trip (`first_failure`).
-/
namespace HorizonIpc

/-! ## what a failed trip is reported as -/

/-- **The status of a call that failed**, by what it was answered: that of the send, the one that the reply carries, or
that of a reply that is none. -/
inductive Call.Reported (c : Call) : Except SendError Answer → UInt32 → Prop
  | send (e : SendError) : Reported c (.error e) (Coded.status e)
  | remote {answer : Answer} {code : ErrorCode}
      (h : Response.ofMessage answer.message c.replySize = .error (.service code)) : Reported c (.ok answer) code.word
  | malformed {answer : Answer} {e : ReplyError} (h : Response.ofMessage answer.message c.replySize = .error e)
      (hv : e.isViolation = true) : Reported c (.ok answer) (Coded.status ClientStatus.invalidReplyHeader)

namespace Call

variable {c : Call} {answer : Except SendError Answer}

theorem reported_of_outcome {e : CallError} (h : (c.outcome answer).1 = .error e) :
    c.Reported answer (Coded.status e) := by
  cases outcome_eq_error_iff.1 h with
  | send failure => exact .send failure
  | @reply _ failure hr =>
    cases failure with
    | service code => exact .remote hr
    | layout | truncated | invalidMagic => exact .malformed hr rfl

end Call

def Event.answer? : Event → Option (Except SendError Answer)
  | sent _ _ answer => some answer
  | closed _ _ | noticed _ => none

theorem Service.ensures_query {past : List Event} {session : SessionHandle}
    {Q : Except CallError UInt16 → List Event → Prop}
    (h : ∀ answer r, ((pointerBufferCall.outcome answer).1.map fun response => Bytes.toUInt16 response.data) = r →
      Q r (past ++ [pointerBufferCall.trip session answer])) :
    Client.Ensures (fun _ => True) past (queryPointerBufferSize session) Q := by
  rw [queryPointerBufferSize_eq]
  exact .send (fun _ => trivial) fun answer => .done (h answer _ rfl)

namespace Binder

open Client

/-! ## acquiring -/

/-- The steps of acquiring an object. -/
inductive InitStep where
  | strong
  | weak
  | nativeHandle
  | pointerBuffer
  deriving DecidableEq

namespace InitStep

/-- The steps in their order. -/
def all : List InitStep := [strong, weak, nativeHandle, pointerBuffer]

variable (b : Binder) (selector : UInt32)

def call : InitStep → Call
  | strong => adjustCall b.object 1 .strong
  | weak => adjustCall b.object 1 .weak
  | nativeHandle => handleCall b.object selector
  | pointerBuffer => Service.pointerBufferCall

/-- What comes of a step, by what its call is answered: nothing, or the error that names the step. -/
def result (step : InitStep) (answer : Except SendError Answer) : Except InitError Unit :=
  let outcome := ((step.call b selector).outcome answer).1
  match step with
  | strong => (outcome.map fun _ => ()).mapError .increaseStrong
  | weak => (outcome.map fun _ => ()).mapError .increaseWeak
  | nativeHandle => (checkedHandle (foundHandle outcome)).map fun _ => ()
  | pointerBuffer =>
    ((outcome.map fun response => Bytes.toUInt16 response.data).mapError .pointerBufferSize).map fun _ => ()

def event (step : InitStep) (answer : Except SendError Answer) : Event :=
  (step.call b selector).trip b.relay.session answer

/-- **The status of a step that failed**: that of its call, or that of a reply without a handle or with one that is
none. -/
inductive Reported : InitStep → Except SendError Answer → UInt32 → Prop
  | call {step : InitStep} {answer : Except SendError Answer} {status : UInt32}
      (h : (step.call b selector).Reported answer status) : Reported step answer status
  | missing {answer : Answer} {response : Response} (h : Response.ofMessage answer.message 0 = .ok response)
      (hnone : response.copyHandles = []) :
      Reported .nativeHandle (.ok answer) (Coded.status ClientStatus.invalidReplyHeader)
  | invalid {answer : Answer} {response : Response} (h : Response.ofMessage answer.message 0 = .ok response)
      (hzero : response.copyHandles.head? = some SessionHandle.invalid) :
      Reported .nativeHandle (.ok answer) (Coded.status ClientStatus.badInput)

/-- The first failure of steps that are answered in turn. -/
def firstFailure (result : InitStep → Except SendError Answer → Except InitError Unit) :
    List InitStep → List (Except SendError Answer) → Except InitError Unit
  | step :: steps, answer :: answers =>
    match result step answer with
    | .error e => .error e
    | .ok () => firstFailure result steps answers
  | _, _ => .ok ()

variable {b selector}

theorem firstFailure_passed {steps : List InitStep} {answers : List (Except SendError Answer)} :
    ∀ passed : List (InitStep × Except SendError Answer), (∀ p ∈ passed, p.1.result b selector p.2 = .ok ()) →
      firstFailure (result b selector) (passed.map Prod.fst ++ steps) (passed.map Prod.snd ++ answers) =
        firstFailure (result b selector) steps answers
  | [], _ => rfl
  | p :: passed, h => by
    rw [List.forall_mem_cons] at h
    simp only [List.map_cons, List.cons_append, firstFailure, h.1]
    exact firstFailure_passed passed h.2

theorem reported_of_result {step : InitStep} {answer : Except SendError Answer} {e : InitError}
    (h : step.result b selector answer = .error e) : Reported b selector step answer (Coded.status e) := by
  cases ho : ((step.call b selector).outcome answer).1 with
  | error failure =>
    have hstatus : Coded.status e = Coded.status failure := by
      unfold result at h
      rw [ho] at h
      cases step <;> cases h <;> rfl
    rw [hstatus]
    exact .call (Call.reported_of_outcome ho)
  | ok response =>
    unfold result at h
    rw [ho] at h
    cases step with
    | strong | weak | pointerBuffer => cases h
    | nativeHandle =>
      obtain ⟨a, rfl, hr⟩ := Call.ofMessage_of_outcome ho
      obtain ⟨data, copyHandles, moveHandles, sendStatics⟩ := response
      cases copyHandles with
      | nil =>
        cases h
        exact .missing hr rfl
      | cons handle rest =>
        change (if handle = SessionHandle.invalid then _ else _ : Except InitError UInt32).map _ = _ at h
        by_cases hz : handle = SessionHandle.invalid
        · rw [if_pos hz] at h
          cases h
          exact .invalid hr (congrArg some hz)
        · rw [if_neg hz] at h
          cases h

end InitStep

/-- **An acquisition fails first at a step**: the steps before it passed, and nothing else happened up to its answer. -/
structure FailsFirst (b : Binder) (selector : UInt32) (passed : List (InitStep × Except SendError Answer))
    (step : InitStep) (answer : Except SendError Answer) (e : InitError) (events : List Event) : Prop where
  order : passed.map Prod.fst ++ [step] <+: InitStep.all
  before : ∀ p ∈ passed, p.1.result b selector p.2 = .ok ()
  fails : step.result b selector answer = .error e
  events : passed.map (fun p => p.1.event b selector p.2) ++ [step.event b selector answer] <+: events

/-- Only steps that passed have been taken, and the given ones are left. -/
structure Passing (b : Binder) (selector : UInt32) (passed : List (InitStep × Except SendError Answer))
    (steps : List InitStep) (events : List Event) : Prop where
  order : passed.map Prod.fst ++ steps = InitStep.all
  before : ∀ p ∈ passed, p.1.result b selector p.2 = .ok ()
  events : events = passed.map fun p => p.1.event b selector p.2

/-- What is known of the events of an acquisition by what comes of it. -/
def Climbed (b : Binder) (selector : UInt32) : Except InitError Unit → List Event → Prop
  | .error e, events => ∃ passed step answer, FailsFirst b selector passed step answer e events
  | .ok (), events => InitStep.firstFailure (InitStep.result b selector) InitStep.all (events.filterMap Event.answer?) = .ok ()

section climb

variable {b : Binder} {selector : UInt32}

theorem FailsFirst.answers {passed : List (InitStep × Except SendError Answer)} {step : InitStep}
    {answer : Except SendError Answer} {e : InitError} {events : List Event}
    (h : FailsFirst b selector passed step answer e events) :
    passed.map Prod.snd ++ [answer] <+: events.filterMap Event.answer? := by
  have hsome : (Event.answer? ∘ fun p : InitStep × _ => p.1.event b selector p.2) = some ∘ Prod.snd := rfl
  have hpre := h.events.filterMap Event.answer?
  rw [List.filterMap_append, List.filterMap_map, hsome, List.filterMap_eq_map] at hpre
  exact hpre

theorem FailsFirst.firstFailure {passed : List (InitStep × Except SendError Answer)} {step : InitStep}
    {answer : Except SendError Answer} {e : InitError} {events : List Event}
    (h : FailsFirst b selector passed step answer e events) {answers : List (Except SendError Answer)}
    (ha : passed.map Prod.snd ++ [answer] <+: answers) :
    InitStep.firstFailure (InitStep.result b selector) InitStep.all answers = .error e := by
  obtain ⟨after, hall⟩ := h.order
  obtain ⟨rest, rfl⟩ := ha
  rw [← hall, List.append_assoc, List.append_assoc, InitStep.firstFailure_passed passed h.before]
  simp only [List.singleton_append, InitStep.firstFailure, h.fails]

variable {passed : List (InitStep × Except SendError Answer)} {step : InitStep} {steps : List InitStep}
  {answer : Except SendError Answer} {past : List Event}

theorem passing_nil : Passing b selector [] InitStep.all [] := ⟨rfl, nofun, rfl⟩

/-- **A step that passes** leaves the steps behind it. -/
theorem Passing.pass (h : Passing b selector passed (step :: steps) past)
    (hr : step.result b selector answer = .ok ()) :
    Passing b selector (passed ++ [(step, answer)]) steps (past ++ [step.event b selector answer]) where
  order := by
    rw [List.map_append, List.append_assoc]
    exact h.order
  before := List.forall_mem_append.2 ⟨h.before, List.forall_mem_singleton.2 hr⟩
  events := by
    rw [h.events, List.map_append]
    rfl

/-- **A step that fails** behind steps that passed is the first that fails. -/
theorem Passing.fail {e : InitError} (h : Passing b selector passed (step :: steps) past)
    (hr : step.result b selector answer = .error e) :
    FailsFirst b selector passed step answer e (past ++ [step.event b selector answer]) where
  order := ⟨steps, by rw [List.append_assoc]; exact h.order⟩
  before := h.before
  fails := hr
  events := h.events ▸ List.prefix_refl _

theorem Passing.firstFailure (h : Passing b selector passed [] past) :
    InitStep.firstFailure (InitStep.result b selector) InitStep.all (past.filterMap Event.answer?) = .ok () := by
  have hsome : (Event.answer? ∘ fun p : InitStep × _ => p.1.event b selector p.2) = some ∘ Prod.snd := rfl
  rw [h.events, List.filterMap_map, hsome, List.filterMap_eq_map, ← h.order, ← List.append_nil (passed.map Prod.snd),
    InitStep.firstFailure_passed passed h.before]
  rfl

/-- **What comes of an acquisition is read off the answers** that it was given. -/
theorem Climbed.firstFailure {r : Except InitError Unit} {events : List Event} (h : Climbed b selector r events) :
    InitStep.firstFailure (InitStep.result b selector) InitStep.all (events.filterMap Event.answer?) = r := by
  cases r with
  | ok _ => exact h
  | error e =>
    obtain ⟨passed, step, answer, h⟩ := h
    exact h.firstFailure h.answers

/-- **Whatever is cleaned up behind a failure**, it stays the first. -/
theorem ensures_cleanup {α : Type} {x : Client Unit} {f : Unit → Client α} {Q : α → List Event → Prop} {e : InitError}
    (h : FailsFirst b selector passed step answer e past)
    (hf : ∀ past', FailsFirst b selector passed step answer e past' → Ensures (fun _ => True) past' (f ()) Q) :
    Ensures (fun _ => True) past (x >>= f) Q :=
  ensures_bind ((ensures_extends x past).imp fun _ past' hpre =>
    hf past' ⟨h.order, h.before, h.fails, h.events.trans hpre⟩)

theorem ensures_adjust (amount : Int32) (kind : RefKind) {Q : Except CallError Unit → List Event → Prop}
    (h : ∀ answer r, ((adjustCall b.object amount kind).outcome answer).1.map (fun _ => ()) = r →
      Q r (past ++ [(adjustCall b.object amount kind).trip b.relay.session answer])) :
    Ensures (fun _ => True) past (b.adjust amount kind) Q := by
  unfold adjust
  rw [adjust_eq]
  exact .send (fun _ => trivial) fun answer => .done (h answer _ rfl)

theorem ensures_fetch {Q : Except InitError UInt32 → List Event → Prop}
    (h : ∀ answer r, checkedHandle (foundHandle ((handleCall b.object selector).outcome answer).1) = r →
      Q r (past ++ [(handleCall b.object selector).trip b.relay.session answer])) :
    Ensures (fun _ => True) past (b.fetchHandle selector) Q := by
  rw [fetchHandle_eq]
  exact .send (fun _ => trivial) fun answer => .done (h answer _ rfl)

/-- **Acquiring takes the steps in order** until one fails, and then cleans up. -/
theorem ensures_climb (b : Binder) (selector : UInt32) :
    Ensures (fun _ => True) [] (b.acquire selector) fun r => Climbed b selector (r.map fun _ => ()) := by
  have p₀ : Passing b selector [] InitStep.all [] := passing_nil
  refine ensures_bind (ensures_adjust 1 .strong fun a₁ r₁ h₁ => ?_)
  have hr₁ : InitStep.strong.result b selector a₁ = r₁.mapError _ := congrArg (Except.mapError _) h₁
  cases r₁ with
  | error e => exact .done ⟨_, _, _, p₀.fail hr₁⟩
  | ok _ =>
    have p₁ := p₀.pass hr₁
    refine ensures_bind (ensures_adjust 1 .weak fun a₂ r₂ h₂ => ?_)
    have hr₂ : InitStep.weak.result b selector a₂ = r₂.mapError _ := congrArg (Except.mapError _) h₂
    cases r₂ with
    | error e => exact ensures_cleanup (p₁.fail hr₂) fun _ h => .done ⟨_, _, _, h⟩
    | ok _ =>
      have p₂ := p₁.pass hr₂
      refine ensures_bind (ensures_fetch fun a₃ r₃ h₃ => ?_)
      have hr₃ : InitStep.nativeHandle.result b selector a₃ = r₃.map _ := congrArg (Except.map _) h₃
      cases r₃ with
      | error e => exact ensures_cleanup (p₂.fail hr₃) fun _ h => .done ⟨_, _, _, h⟩
      | ok handle =>
        have p₃ := p₂.pass hr₃
        refine ensures_bind (Service.ensures_query fun a₄ r₄ h₄ => ?_)
        have hr₄ : InitStep.pointerBuffer.result b selector a₄ = (r₄.mapError .pointerBufferSize).map fun _ => () :=
          congrArg (fun r => (Except.mapError InitError.pointerBufferSize r).map fun _ => ()) h₄
        cases r₄ with
        | ok size => exact .done (p₃.pass hr₄).firstFailure
        | error e =>
          exact ensures_cleanup (p₃.fail hr₄) fun _ h => ensures_cleanup h fun _ h => .done ⟨_, _, _, h⟩

/-- **Initializing** tells of the first step that failed, and then leaves the binder as it was. -/
theorem ensures_init_climb (hb : b.state = .created) (config : BinderConfig) :
    Ensures (fun _ => True) [] (b.init selector config) fun r events =>
      Climbed b selector r.1 events ∧ ∀ e, r.1 = .error e → r.2 = b := by
  unfold init
  rw [hb]
  refine ensures_bind ((ensures_climb { b with state := .initializing } selector).imp fun r past h => ?_)
  have hsame : { b with state := BinderState.created } = b := by
    rw [← hb]
  cases r with
  | error e =>
    obtain ⟨passed, step, answer, h⟩ := h
    refine ensures_cleanup h fun past' h => .done ⟨⟨passed, step, answer, ?_⟩, fun _ _ => hsame⟩
    -- the steps read nothing of a binder but its object and its session
    exact ⟨h.order, h.before, h.fails, h.events⟩
  | ok acquired =>
    refine .note trivial (.done ⟨?_, nofun⟩)
    show InitStep.firstFailure _ _ ((past ++ [_]).filterMap Event.answer?) = _
    rw [List.filterMap_append]
    show InitStep.firstFailure _ _ (past.filterMap Event.answer? ++ []) = _
    rw [List.append_nil]
    exact h

/-- A binder that is not new does nothing to be initialized. -/
theorem init_refused (hb : b.state ≠ .created) (config : BinderConfig) :
    b.init selector config =
      .done (.error (if b.state = .closed then .closed else .alreadyInitialized), b) := by
  unfold init
  cases hs : b.state with
  | created => exact absurd hs hb
  | initializing | initialized | closed => rfl

end climb

/-! ## releasing -/

def weakCall (b : Binder) : Call := adjustCall b.object (-1) .weak

def strongCall (b : Binder) : Call := adjustCall b.object (-1) .strong

/-- **What an exit reports**: the first of its three failures, with the status of the trip or of the close that failed. -/
inductive ExitReports (b : Binder) (weak strong : Except SendError Answer) (closed : Except CloseError Unit) :
    Except ExitError Unit → Prop
  | weak {e : CallError} (h : (b.weakCall.outcome weak).1 = .error e)
      (hs : b.weakCall.Reported weak (Coded.status (ExitError.decreaseWeak e))) :
      ExitReports b weak strong closed (.error (.decreaseWeak e))
  | strong {r : Response} {e : CallError} (hw : (b.weakCall.outcome weak).1 = .ok r)
      (h : (b.strongCall.outcome strong).1 = .error e)
      (hs : b.strongCall.Reported strong (Coded.status (ExitError.decreaseStrong e))) :
      ExitReports b weak strong closed (.error (.decreaseStrong e))
  | close {r r' : Response} {e : CloseError} (hw : (b.weakCall.outcome weak).1 = .ok r)
      (hs : (b.strongCall.outcome strong).1 = .ok r') (h : closed = .error e)
      (hc : Coded.status (ExitError.closeNativeHandle e) = Coded.status e) :
      ExitReports b weak strong closed (.error (.closeNativeHandle e))
  | released {r r' : Response} (hw : (b.weakCall.outcome weak).1 = .ok r)
      (hs : (b.strongCall.outcome strong).1 = .ok r') (hc : closed = .ok ()) :
      ExitReports b weak strong closed (.ok ())

/-- The report of an exit by what its two trips and its close come to. -/
def exitReport (b : Binder) (weak strong : Except SendError Answer) (closed : Except CloseError Unit) :
    Except ExitError Unit :=
  Binder.firstFailure [((b.weakCall.outcome weak).1.map fun _ => ()).mapError .decreaseWeak,
    ((b.strongCall.outcome strong).1.map fun _ => ()).mapError .decreaseStrong, closed.mapError .closeNativeHandle]

theorem exitReports (b : Binder) (weak strong : Except SendError Answer) (closed : Except CloseError Unit) :
    ExitReports b weak strong closed (b.exitReport weak strong closed) := by
  unfold exitReport
  cases hw : (b.weakCall.outcome weak).1 with
  | error e => exact .weak hw (Call.reported_of_outcome hw)
  | ok r =>
    cases hs : (b.strongCall.outcome strong).1 with
    | error e => exact .strong hw hs (Call.reported_of_outcome hs)
    | ok r' =>
      cases closed with
      | error e => exact .close hw hs rfl rfl
      | ok _ => exact .released hw hs rfl

/-- **An exit makes its three attempts in order**, whatever comes of them. -/
theorem exit_eq {b : Binder} {handle : UInt32} (hb : b.state = .initialized) (hh : b.nativeHandle = some handle) :
    b.exit = .send b.relay.session ⟨b.weakCall.message, []⟩ fun weak =>
      .send b.relay.session ⟨b.strongCall.message, []⟩ fun strong =>
        .close handle fun closed => b.notice .debug "closed" >>= fun _ =>
          .done (b.exitReport weak strong closed, { b with state := .closed, nativeHandle := none }) := by
  unfold exit adjust
  rw [if_neg (not_not_intro hb), hh, adjust_eq, adjust_eq]
  rfl

/-- The binders that come out of operations on a new one, whatever answers each of them. -/
inductive Reachable : Binder → Prop
  | create (relay : Service) (object : Int32) : Reachable (create relay object)
  | operate {b : Binder} {σ : Type} (h : Reachable b) (o : Operation) (t : Transport σ) (s : σ) :
      Reachable ((b.operate o).run t s).value

theorem Reachable.rests {b : Binder} (h : Reachable b) : ∃ object past, Rests object b (Tally.of object past) := by
  induction h with
  | create relay object => exact ⟨object, [], .idle [] (.inl rfl) rfl rfl rfl⟩
  | operate _ o t s ih =>
    obtain ⟨object, past, h⟩ := ih
    exact ⟨object, _, (run_of_ensures t h.steady (ensures_operate h o) s).2⟩

theorem Reachable.nativeHandle {b : Binder} (h : Reachable b) (hb : b.state = .initialized) :
    ∃ handle, b.nativeHandle = some handle := by
  obtain ⟨object, past, h⟩ := h.rests
  exact h.balanced.2.2.1.1 hb

end Binder

/-! ## opening a session -/

namespace NameService

/-- **The status of a lookup that failed**: that of its call, or that of a reply without a handle. -/
inductive Reported (name : ServiceName) : Except SendError Answer → UInt32 → Prop
  | call {answer : Except SendError Answer} {status : UInt32} (h : (lookupCall name).Reported answer status) :
      Reported name answer status
  | missing {answer : Answer} {response : Response} (h : Response.ofMessage answer.message 0 = .ok response)
      (hnone : response.moveHandles = []) :
      Reported name (.ok answer) (Coded.status ClientStatus.invalidReplyHeader)

/-- The error for a session that does not tell its pointer buffer, by what came of closing it. -/
def probeError (e : CallError) : Except CloseError Unit → OpenError
  | .ok () => .probe e
  | .error close => .probeAndClose e close

/-- **What opening a session reports, and what happened**: the failure of the lookup, or that of the question for the
pointer buffer, whether or not the session can then be closed. -/
inductive OpenReports (n : NameService) (name : ServiceName) : Except OpenError Service → List Event → Prop
  | lookup {answer : Except SendError Answer} {e : FetchError}
      (h : foundSession ((lookupCall name).outcome answer).1 = .error e)
      (hs : Reported name answer (Coded.status (OpenError.lookup e))) :
      OpenReports n name (.error (.lookup e)) [(lookupCall name).trip n.service.session answer]
  | probe {answer probe : Except SendError Answer} {session : SessionHandle} {e : CallError}
      (closed : Except CloseError Unit) (h : foundSession ((lookupCall name).outcome answer).1 = .ok session)
      (hp : (Service.pointerBufferCall.outcome probe).1 = .error e)
      (hs : Service.pointerBufferCall.Reported probe (Coded.status (probeError e closed))) :
      OpenReports n name (.error (probeError e closed)) [(lookupCall name).trip n.service.session answer,
        Service.pointerBufferCall.trip session probe, .closed session.raw closed]
  | opened {answer probe : Except SendError Answer} {session : SessionHandle} {response : Response}
      (h : foundSession ((lookupCall name).outcome answer).1 = .ok session)
      (hp : (Service.pointerBufferCall.outcome probe).1 = .ok response) :
      OpenReports n name (.ok ⟨session, Bytes.toUInt16 response.data⟩)
        [(lookupCall name).trip n.service.session answer, Service.pointerBufferCall.trip session probe]

theorem reported_of_foundSession {name : ServiceName} {answer : Except SendError Answer} {e : FetchError}
    (h : foundSession ((lookupCall name).outcome answer).1 = .error e) :
    Reported name answer (Coded.status (OpenError.lookup e)) := by
  cases foundSession_eq_error_iff.1 h with
  | call hf => exact .call (Call.reported_of_outcome (Call.outcome_eq_error_iff.2 hf))
  | missing hr hnone => exact .missing hr hnone

theorem ensures_lookup {past : List Event} {n : NameService} {name : ServiceName}
    {Q : Except FetchError SessionHandle → List Event → Prop}
    (h : ∀ answer r, foundSession ((lookupCall name).outcome answer).1 = r →
      Q r (past ++ [(lookupCall name).trip n.service.session answer])) :
    Client.Ensures (fun _ => True) past (n.lookup name) Q := by
  rw [lookup_eq]
  exact .send (fun _ => trivial) fun answer => .done (h answer _ rfl)

/-- **Opening a session** is up to two trips and a close. -/
theorem ensures_openService (n : NameService) (name : ServiceName) :
    Client.Ensures (fun _ => True) [] (n.openService name) (OpenReports n name) := by
  refine Client.ensures_bind (ensures_lookup fun answer r h => ?_)
  cases r with
  | error e => exact .done (.lookup h (reported_of_foundSession h))
  | ok session =>
    refine Client.ensures_bind (Client.ensures_bind (Service.ensures_query fun probe r hr => ?_))
    cases hp : (Service.pointerBufferCall.outcome probe).1 with
    | ok response =>
      rw [hp] at hr
      subst hr
      exact .done (.done (.opened h hp))
    | error e =>
      rw [hp] at hr
      subst hr
      refine .done (.close (fun _ => trivial) fun closed => ?_)
      have hs : Service.pointerBufferCall.Reported probe (Coded.status (probeError e closed)) := by
        cases closed <;> exact Call.reported_of_outcome hp
      cases closed with
      | ok _ => exact .done (.probe (.ok ()) h hp hs)
      | error close => exact .done (.probe (.error close) h hp hs)

end NameService

namespace Binder

open Client

/-- **The first failure is the one that is reported**, and cleaning up behind it never hides it.

An initialization that fails tells of the first step that failed, leaves the binder as it was, and would have ended the
same way on any transport that gives the same answers up to that step.  An exit makes its three attempts in order, and
tells of the first that failed.  Opening a session tells of the lookup, or of the question for the pointer buffer
whatever came of closing the session. -/
theorem first_failure {σ : Type} (t : Transport σ) (s : σ) :
    (∀ (b : Binder) (selector : UInt32) (config : BinderConfig) (e : InitError),
      let run := (b.init selector config).run t s
      run.value.1 = .error e → run.value.2 = b ∧
        if b.state = .created then
          ∃ passed step answer, FailsFirst b selector passed step answer e run.events ∧
            InitStep.Reported b selector step answer (Coded.status e) ∧
            ∀ {τ : Type} (t' : Transport τ) (s' : τ),
              let run' := (b.init selector config).run t' s'
              passed.map Prod.snd ++ [answer] <+: run'.events.filterMap Event.answer? → run'.value = run.value
        else run.events = [] ∧ e = if b.state = .closed then .closed else .alreadyInitialized) ∧
    (∀ b : Binder, b.Reachable → b.state = .initialized →
      let run := b.exit.run t s
      ∃ handle weak strong closed notice, b.nativeHandle = some handle ∧
        run.events = [b.weakCall.trip b.relay.session weak, b.strongCall.trip b.relay.session strong,
          .closed handle closed, .noticed notice] ∧
        ExitReports b weak strong closed run.value.1 ∧
        run.value.2 = { b with state := .closed, nativeHandle := none }) ∧
    ∀ (n : NameService) (name : ServiceName),
      let run := (n.openService name).run t s
      NameService.OpenReports n name run.value run.events := by
  refine ⟨?init, ?exit, ?openService⟩
  case init =>
    intro b selector config e run he
    by_cases hb : b.state = .created
    · obtain ⟨hclimbed, hsame⟩ := (run_of_ensures t trivial (ensures_init_climb hb config) s).2
      have hvalue : run.value = (.error e, b) := Prod.ext he (hsame e he)
      rw [if_pos hb]
      refine ⟨hsame e he, ?_⟩
      obtain ⟨passed, step, answer, h⟩ : Climbed b selector (.error e) run.events := by
        rw [← he]
        exact hclimbed
      refine ⟨passed, step, answer, h, InitStep.reported_of_result h.fails, fun t' s' hpre => ?_⟩
      obtain ⟨hclimbed', hsame'⟩ := (run_of_ensures t' trivial (ensures_init_climb hb config) s').2
      -- the answers up to the failing step decide what comes of the steps, in either run
      have he' := hclimbed'.firstFailure.symm.trans (h.firstFailure hpre)
      rw [hvalue]
      exact Prod.ext he' (hsame' e he')
    · rw [if_neg hb]
      have hrun : run = (b.init selector config).run t s := rfl
      rw [init_refused hb] at hrun
      rw [hrun] at he ⊢
      exact ⟨rfl, rfl, (Except.error.inj he).symm⟩
  case exit =>
    intro b hreach hb run
    obtain ⟨handle, hh⟩ := hreach.nativeHandle hb
    have hrun : run = (b.exit.run t s) := rfl
    rw [exit_eq hb hh] at hrun
    exact ⟨handle, _, _, _, _, hh, congrArg Run.events hrun, by rw [hrun]; exact exitReports b _ _ _,
      congrArg (·.value.2) hrun⟩
  case openService =>
    intro n name run
    exact (run_of_ensures t trivial (NameService.ensures_openService n name) s).2

/-- The session breaks after the two references were taken: the native handle is what fails, not the releases behind
it. -/
theorem first_failure_broken :
    let t : Transport Nat := {
      send := fun _ e n =>
        (if n < 2 then .ok { message := ((Reply.write {}).on e.message).2 } else .error .sessionClosed, n + 1)
      close := fun _ n => (.error .invalidHandle, n) }
    let b := create ⟨⟨1⟩, 0⟩ 7
    let e : InitError := .nativeHandle (.call (.send .sessionClosed))
    let run := (b.init 0 {}).run t 0
    run.value.1 = .error e ∧ run.value.2 = b ∧
      ∃ passed step answer, FailsFirst b 0 passed step answer e run.events := by
  intro t b e run
  have he : run.value.1 = .error e := Attempt.eq_error (by decide +kernel)
  obtain ⟨hsame, hfirst⟩ := (first_failure t 0).1 b 0 {} e he
  rw [if_pos (show b.state = .created from rfl)] at hfirst
  obtain ⟨passed, step, answer, h, -⟩ := hfirst
  exact ⟨he, hsame, passed, step, answer, h⟩

end Binder
end HorizonIpc
