import HorizonIpc.Proofs.Binder.FirstFailure
/-!
# Proofs.Service.Opening — a session that was looked up is handed out or given back

Opening a service is a lookup, a question on the handle that it brought, and a close of this handle if the question
fails.  Whatever answers, the handle is in the result or has been closed once, and which of the four results it is can
be told from the answers (`session_owned`).
-/
namespace HorizonIpc

/-! ## what an answer says -/

/-- An answer to a question for the pointer buffer that tells its size. -/
def Service.Tells (answer : Except SendError Answer) (size : UInt16) : Prop :=
  ∃ a response, answer = .ok a ∧ Response.ofMessage a.message 2 = .ok response ∧ size = Bytes.toUInt16 response.data

namespace Service

/-- What a client makes of the answer to the question for the pointer buffer. -/
def told (answer : Except SendError Answer) : Except CallError UInt16 :=
  (pointerBufferCall.outcome answer).1.map fun response => Bytes.toUInt16 response.data

variable {answer : Except SendError Answer}

theorem told_eq_ok_iff {size : UInt16} : told answer = .ok size ↔ Tells answer size := by
  unfold told
  constructor
  · intro h
    cases ho : (pointerBufferCall.outcome answer).1 with
    | error e =>
      rw [ho] at h
      cases h
    | ok response =>
      rw [ho] at h
      cases h
      obtain ⟨a, rfl, hr⟩ := Call.ofMessage_of_outcome ho
      exact ⟨a, response, rfl, hr, rfl⟩
  · rintro ⟨a, response, rfl, hr, rfl⟩
    rw [Call.outcome_of_ofMessage hr]
    rfl

theorem told_eq_error_iff {e : CallError} : told answer = .error e ↔ Call.Fails 2 answer e := by
  have hfails : Call.Fails 2 answer e ↔ (pointerBufferCall.outcome answer).1 = .error e :=
    (Call.outcome_eq_error_iff (c := pointerBufferCall)).symm
  rw [hfails]
  unfold told
  cases (pointerBufferCall.outcome answer).1 with
  | error failure => exact ⟨fun h => congrArg Except.error (Except.error.inj h),
      fun h => congrArg Except.error (Except.error.inj h)⟩
  | ok response => exact ⟨nofun, nofun⟩

theorem ofSession_eq (session : SessionHandle) :
    ofSession session = .send session ⟨pointerBufferCall.message, []⟩ fun answer =>
      .done ((told answer).map fun size => ⟨session, size⟩) := by
  unfold ofSession
  rw [queryPointerBufferSize_eq]
  rfl

end Service

namespace NameService

/-- **Opening a service as a tree**: the lookup, the question on the session found, and the close if it fails. -/
theorem openService_eq (n : NameService) (name : ServiceName) :
    n.openService name = .send n.service.session ⟨(lookupCall name).message, []⟩ fun answer =>
      match foundSession ((lookupCall name).outcome answer).1 with
      | .error e => .done (.error (.lookup e))
      | .ok session => .send session ⟨Service.pointerBufferCall.message, []⟩ fun answer =>
        match Service.told answer with
        | .ok size => .done (.ok ⟨session, size⟩)
        | .error e => .close session.raw fun closed => .done (.error (probeError e closed)) := by
  unfold openService
  rw [lookup_eq]
  refine congrArg (Client.send _ _) (funext fun answer => ?_)
  show Client.bind (.done (foundSession ((lookupCall name).outcome answer).1)) _ = _
  rcases foundSession ((lookupCall name).outcome answer).1 with e | session
  · rfl
  dsimp only [Client.bind]
  rw [Service.ofSession_eq]
  refine congrArg (Client.send _ _) (funext fun answer => ?_)
  show Client.bind (.done ((Service.told answer).map _)) _ = _
  rcases Service.told answer with e | size
  -- whatever comes of the close, it only decides between the two errors
  · show Client.close _ _ = Client.close _ _
    refine congrArg (Client.close _) (funext fun closed => ?_)
    cases closed <;> rfl
  · rfl

/-- **What becomes of a session that was looked up**, by what is answered to the lookup, to the question on a session, and
to closing a session. -/
structure Owned (looked : Except SendError Answer) (asked : SessionHandle → Except SendError Answer)
    (closed : SessionHandle → Except CloseError Unit) (lookup : Event) (question : SessionHandle → Event)
    (value : Except OpenError Service) (events : List Event) : Prop where
  none_found : (∀ h, ¬ Brings looked h) → events = [lookup]
  kept : ∀ h, Brings looked h → (∃ size, Service.Tells (asked h) size) → events = [lookup, question h]
  given_back : ∀ h, Brings looked h → (¬ ∃ size, Service.Tells (asked h) size) →
    events = [lookup, question h, .closed h.raw (closed h)]
  ok_iff : ∀ h size, value = .ok ⟨h, size⟩ ↔ Brings looked h ∧ Service.Tells (asked h) size
  probe_iff : ∀ e, value = .error (.probe e) ↔ ∃ h, Brings looked h ∧ Call.Fails 2 (asked h) e ∧ closed h = .ok ()
  probeAndClose_iff : ∀ e c, value = .error (.probeAndClose e c) ↔
    ∃ h, Brings looked h ∧ Call.Fails 2 (asked h) e ∧ closed h = .error c
  lookup_iff : ∀ e, value = .error (.lookup e) ↔ Misses looked e

section outcomes

variable {looked : Except SendError Answer} {asked : SessionHandle → Except SendError Answer}
  {closed : SessionHandle → Except CloseError Unit} {lookup : Event} {question : SessionHandle → Event}
  {found : Except FetchError SessionHandle} {told : SessionHandle → Except CallError UInt16}

/-- What the answers say, as the outcomes that a client makes of them. -/
structure Decoded (looked : Except SendError Answer) (asked : SessionHandle → Except SendError Answer)
    (found : Except FetchError SessionHandle) (told : SessionHandle → Except CallError UInt16) : Prop where
  brings : ∀ h, Brings looked h ↔ found = .ok h
  misses : ∀ e, Misses looked e ↔ found = .error e
  tells : ∀ h size, Service.Tells (asked h) size ↔ told h = .ok size
  fails : ∀ h e, Call.Fails 2 (asked h) e ↔ told h = .error e

theorem Decoded.missed {e : FetchError} (hd : Decoded looked asked (.error e) told) :
    Owned looked asked closed lookup question (.error (.lookup e)) [lookup] := by
  obtain ⟨hbrings, hmisses, -, -⟩ := hd
  constructor <;> simp [hbrings, hmisses]

theorem Decoded.kept {session : SessionHandle} {size : UInt16} (hd : Decoded looked asked (.ok session) told)
    (ht : told session = .ok size) :
    Owned looked asked closed lookup question (.ok ⟨session, size⟩) [lookup, question session] := by
  obtain ⟨hbrings, hmisses, htells, hfails⟩ := hd
  constructor
  case ok_iff =>
    intro h size'
    rw [hbrings, htells]
    constructor
    · rintro ⟨⟩
      exact ⟨rfl, ht⟩
    · rintro ⟨⟨⟩, ht'⟩
      cases ht.symm.trans ht'
      rfl
  all_goals simp [hbrings, hmisses, htells, hfails, ht]

theorem Decoded.given_back {session : SessionHandle} {e : CallError} (hd : Decoded looked asked (.ok session) told)
    (ht : told session = .error e) :
    Owned looked asked closed lookup question (.error (probeError e (closed session)))
      [lookup, question session, .closed session.raw (closed session)] := by
  obtain ⟨hbrings, hmisses, htells, hfails⟩ := hd
  constructor
  case ok_iff =>
    intro h size
    rw [hbrings, htells]
    constructor
    · nofun
    · rintro ⟨⟨⟩, ht'⟩
      cases ht.symm.trans ht'
  -- what came of the close only tells the two errors apart
  all_goals cases hc : closed session <;> simp [hbrings, hmisses, htells, hfails, ht, hc, probeError]

end outcomes

/-- **A session that was looked up is handed out or given back**, whatever answers.  Opening a service sends the lookup,
and then the question for the pointer buffer on the session found; this session is closed once if the question fails,
and not otherwise.  The service is opened exactly if both succeed. -/
theorem session_owned (n : NameService) (name : ServiceName) :
    ∃ lookup query : Message,
      lookup.Asks .request 1 (fun arguments => 8 ≤ arguments.length ∧ Bytes.toUInt64 arguments = name.key) {} ∧
      query.Asks .control 3 (fun _ => True) {} ∧
      ∀ {σ : Type} (t : Transport σ) (s : σ),
        let looked := t.send n.service.session ⟨lookup, []⟩ s
        let asked (h : SessionHandle) := t.send h ⟨query, []⟩ looked.2
        let closed (h : SessionHandle) := t.close h.raw (asked h).2
        let run := (n.openService name).run t s
        Owned looked.1 (fun h => (asked h).1) (fun h => (closed h).1) (.sent n.service.session ⟨lookup, []⟩ looked.1)
          (fun h => .sent h ⟨query, []⟩ (asked h).1) run.value run.events := by
  refine ⟨(lookupCall name).message, Service.pointerBufferCall.message,
    Call.asks_of_laidOut (laidOut_lookupCall name) nofun rfl (fun _ => Bytes.toUInt64_of_prefix) nofun,
    Call.asks_of_laidOut Service.laidOut_pointerBufferCall nofun rfl (fun _ _ => trivial) nofun, ?_⟩
  intro σ t s looked asked closed run
  have hd : Decoded looked.1 (fun h => (asked h).1) (foundSession ((lookupCall name).outcome looked.1).1)
      (fun h => Service.told (asked h).1) :=
    { brings := fun _ => foundSession_eq_ok_iff.symm
      misses := fun _ => foundSession_eq_error_iff.symm
      tells := fun _ _ => Service.told_eq_ok_iff.symm
      fails := fun _ _ => Service.told_eq_error_iff.symm }
  have hrun : run = (n.openService name).run t s := rfl
  rw [openService_eq] at hrun
  dsimp only [Client.run] at hrun
  rcases hf : foundSession ((lookupCall name).outcome looked.1).1 with e | session
  · rw [hf] at hd hrun
    rw [hrun]
    exact hd.missed
  rw [hf] at hd hrun
  dsimp only [Client.run] at hrun
  rcases ht : Service.told (asked session).1 with e | size
  · rw [ht] at hrun
    rw [hrun]
    exact hd.given_back ht
  · rw [ht] at hrun
    rw [hrun]
    exact hd.kept ht

/-- A session that was found breaks at once, and cannot be closed either: it has been closed once, and both failures are
reported. -/
theorem session_owned_broken :
    let found : Answer := { message := ((Reply.write { moveHandles := [5, 6] }).on .zero).2 }
    let t : Transport Nat := {
      send := fun _ _ n => (if n = 0 then .ok found else .error .sessionClosed, n + 1)
      close := fun _ n => (.error .invalidHandle, n) }
    let run := (openService ⟨⟨1⟩, 0⟩ .empty).run t 0
    run.value = .error (.probeAndClose (.send .sessionClosed) .invalidHandle) ∧
      ∃ lookup query, run.events = [.sent ⟨1⟩ lookup (.ok found), .sent ⟨5⟩ query (.error .sessionClosed),
        .closed 5 (.error .invalidHandle)] := by
  intro found t run
  obtain ⟨lookup, query, -, -, howned⟩ := session_owned ⟨⟨1⟩, 0⟩ .empty
  have h := howned t 0
  have hbrings : Brings (.ok found) ⟨5⟩ := by
    have hmoved : ((Response.ofMessage found.message 0).map (·.moveHandles)).toOption = some [5, 6] := by decide +kernel
    cases hreply : Response.ofMessage found.message 0 with
    | error e =>
      rw [hreply] at hmoved
      cases hmoved
    | ok response =>
      rw [hreply] at hmoved
      exact ⟨found, response, [6], rfl, hreply, Option.some.inj hmoved⟩
  have hbroken : ¬ ∃ size, Service.Tells (.error .sessionClosed) size := nofun
  exact ⟨(h.probeAndClose_iff _ _).2 ⟨⟨5⟩, hbrings, .send _, rfl⟩, ⟨lookup, []⟩, ⟨query, []⟩,
    h.given_back ⟨5⟩ hbrings hbroken⟩

end NameService
end HorizonIpc
