import HorizonIpc.Proofs.Binder.Effects
import HorizonIpc.Proofs.Command.Failure
import HorizonIpc.Proofs.Parcel.Admission
/-!
# Proofs.Binder.Violation — which failures of a transaction break the protocol

A transaction that was answered fails in one of three ways: the message carries no response header, it reports a failure
of the service, or it reports success over a reply buffer that holds no parcel.  The first and the last are breaches of
the protocol, the second is not, and neither is anything that fails before there is an answer (`transact_violation`).
-/
namespace HorizonIpc

theorem ReplyError.status_of_isViolation {e : ReplyError} (h : e.isViolation = true) :
    Coded.status e = Coded.status ClientStatus.invalidReplyHeader := by
  cases e with
  | service c => cases h
  | layout f => rfl
  | truncated => rfl
  | invalidMagic => rfl

/-- Some send among the events was answered so. -/
def Client.Answered (events : List Event) (answer : Except SendError Answer) : Prop :=
  ∃ session exchange, .sent session exchange answer ∈ events

theorem Client.answered_iff {session : SessionHandle} {exchange : Exchange} {answer answer' : Except SendError Answer}
    {notices : List Notice} :
    Answered (.sent session exchange answer :: notices.map .noticed) answer' ↔ answer' = answer := by
  simp [Answered]

namespace Binder

open Client

/-- The part of the reply buffer that counts, for an answer with these statics. -/
def returned (b : Binder) (staging : Staging) (request : Parcel) (a : Answer) (statics : List StaticDescriptor) :
    Bytes :=
  ((blankReply staging).after a.stores).bytes.take (b.counted request.wireSize statics)

/-- **How an answer breaks the protocol**, with the status that this lowers to. -/
inductive Breaks (b : Binder) (staging : Staging) (request : Parcel) (a : Answer) : UInt32 → Prop
  | header (h : ¬ ∃ v status, a.message.Reports v status) :
      Breaks b staging request a (Coded.status ClientStatus.invalidReplyHeader)
  | parcel {v : View} (h : a.message.Reports v 0)
      (hparcel : ¬ Parcel.Admissible (b.returned staging request a v.sendStatics)) :
      Breaks b staging request a (Coded.status ClientStatus.badInput)

/-- **What a transaction fails of while everybody keeps to the protocol**: it is not for the binder, or too large, or
the transport fails, or the service reports that it failed. -/
inductive Excused (b : Binder) (request : Parcel) (events : List Event) : Prop
  | idle (h : b.state ≠ .initialized)
  | large (h : 0x400 < 16 + request.data.extent + request.objects.extent)
  | unsent {e : SendError} (h : Answered events (.error e))
  | refused {a : Answer} {v : View} {e : ErrorCode} (h : Answered events (.ok a)) (hreports : a.message.Reports v e.word)

variable {b : Binder} {staging : Staging} {request reply : Parcel} {a : Answer}

/-- **What becomes of a transaction that is answered**: no header, a failure, no parcel, or a reply. -/
theorem ending_cases (b : Binder) (staging : Staging) (request reply : Parcel) (a : Answer) :
    ((¬ ∃ v status, a.message.Reports v status) ∧
      ∃ e : ReplyError, e.isViolation = true ∧
        b.ending staging request reply (.ok a) = (.error (.call (.reply e)), reply)) ∨
    (∃ (v : View) (e : ErrorCode), a.message.Reports v e.word ∧
      b.ending staging request reply (.ok a) = (.error (.call (.reply (.service e))), reply)) ∨
    ∃ v, a.message.Reports v 0 ∧
      ((¬ Parcel.Admissible (b.returned staging request a v.sendStatics) ∧
          b.ending staging request reply (.ok a) = (.error (.invalidReply .replyOutOfBounds), reply)) ∨
        Parcel.Admissible (b.returned staging request a v.sendStatics) ∧
          (b.ending staging request reply (.ok a)).1 = .ok ()) := by
  by_cases hsome : ∃ v status, a.message.Reports v status
  · obtain ⟨v, status, h⟩ := hsome
    cases hs : ErrorCode.ofWord? status with
    | some e =>
      obtain rfl := ErrorCode.ofWord?_eq_some_iff.1 hs
      exact .inr (.inl ⟨v, e, h, ending_refused (h.ofMessage_failure (Nat.zero_le _))⟩)
    | none =>
      obtain rfl := ErrorCode.ofWord?_eq_none_iff.1 hs
      obtain ⟨response, hr, hstatics⟩ := h.ofMessage_success (Nat.zero_le _)
      have hreceived : b.received staging request a response = b.returned staging request a v.sendStatics := by
        rw [← hstatics]
        rfl
      refine .inr (.inr ⟨v, h, ?_⟩)
      rw [← hreceived]
      by_cases hparcel : Parcel.Admissible (b.received staging request a response)
      · rw [ending_accepted hr (Parcel.deserialize_admissible hparcel reply)]
        exact .inr ⟨hparcel, rfl⟩
      · rw [ending_accepted hr (Parcel.deserialize_not_admissible hparcel reply)]
        exact .inl ⟨hparcel, rfl⟩
  · obtain ⟨e, hr, he⟩ := Response.ofMessage_unreported hsome 0
    exact .inl ⟨hsome, e, he, ending_refused hr⟩

theorem ending_violates_iff (word : UInt32) :
    (∃ e, (b.ending staging request reply (.ok a)).1 = .error e ∧ e.isViolation = true ∧ Coded.status e = word) ↔
      Breaks b staging request a word := by
  rcases ending_cases b staging request reply a with
    ⟨hnone, f, hf, hend⟩ | ⟨v, c, h, hend⟩ | ⟨v, h, ⟨hparcel, hend⟩ | ⟨hparcel, hend⟩⟩
  · rw [hend]
    constructor
    · rintro ⟨_, ⟨⟩, -, rfl⟩
      rw [show Coded.status (TransactError.call (.reply f)) = _ from f.status_of_isViolation hf]
      exact .header hnone
    · rintro (⟨-⟩ | ⟨h, -⟩)
      · exact ⟨_, rfl, hf, f.status_of_isViolation hf⟩
      · exact absurd ⟨_, _, h⟩ hnone
  · rw [hend]
    constructor
    · rintro ⟨_, ⟨⟩, ⟨⟩, -⟩
    · rintro (⟨hnone⟩ | ⟨h', -⟩)
      · exact absurd ⟨_, _, h⟩ hnone
      · exact absurd (h.unique h').2 c.word_ne_zero
  · rw [hend]
    constructor
    · rintro ⟨_, ⟨⟩, -, rfl⟩
      exact .parcel h hparcel
    · rintro (⟨hnone⟩ | ⟨-, -⟩)
      · exact absurd ⟨_, _, h⟩ hnone
      · exact ⟨_, rfl, rfl, rfl⟩
  · rw [hend]
    constructor
    · rintro ⟨_, ⟨⟩, -⟩
    · rintro (⟨hnone⟩ | ⟨h', hno⟩)
      · exact absurd ⟨_, _, h⟩ hnone
      · obtain ⟨rfl, -⟩ := h.unique h'
        exact absurd hparcel hno

/-- **A failure after an answer is excused exactly if the service reports it.** -/
theorem ending_excused_iff {events : List Event} {e : TransactError} (hb : b.state = .initialized)
    (hfits : ¬ 0x400 < 16 + request.data.extent + request.objects.extent)
    (hevents : ∀ answer, Answered events answer ↔ answer = .ok a)
    (he : (b.ending staging request reply (.ok a)).1 = .error e) :
    e.isViolation = false ↔ Excused b request events := by
  -- whoever is excused has been refused by the service
  have hrefused : Excused b request events → ∃ (v : View) (c : ErrorCode), a.message.Reports v c.word := by
    rintro (hidle | hlarge | hunsent | ⟨hsent, h⟩)
    · exact absurd hb hidle
    · exact absurd hlarge hfits
    · cases (hevents _).1 hunsent
    · cases (hevents _).1 hsent
      exact ⟨_, _, h⟩
  rcases ending_cases b staging request reply a with
    ⟨hnone, f, hf, hend⟩ | ⟨v, c, h, hend⟩ | ⟨v, h, ⟨-, hend⟩ | ⟨-, hend⟩⟩
  · rw [hend] at he
    cases he
    constructor
    · intro hno
      exact absurd (hf.symm.trans hno) (by decide)
    · intro hexcused
      obtain ⟨v, c, h⟩ := hrefused hexcused
      exact absurd ⟨_, _, h⟩ hnone
  · rw [hend] at he
    cases he
    exact ⟨fun _ => .refused ((hevents _).2 rfl) h, fun _ => rfl⟩
  · rw [hend] at he
    cases he
    constructor
    · rintro ⟨⟩
    · intro hexcused
      obtain ⟨v', c, h'⟩ := hrefused hexcused
      exact absurd (h.unique h').2.symm c.word_ne_zero
  · rw [hend] at he
    cases he

/-- **What breaks the protocol, and what is excused**, by the outcome of a transaction and its events. -/
structure ToldApart (b : Binder) (staging : Staging) (request : Parcel) (r : Except TransactError Unit)
    (events : List Event) : Prop where
  broken : ∀ word, (∃ e, r = .error e ∧ e.isViolation = true ∧ Coded.status e = word) ↔
    b.state = .initialized ∧ 16 + request.data.extent + request.objects.extent ≤ 0x400 ∧
      ∃ a, Answered events (.ok a) ∧ Breaks b staging request a word
  excused : ∀ e, r = .error e → (e.isViolation = false ↔ Excused b request events)

theorem toldApart_unanswered {e : TransactError} {events : List Event} (he : e.isViolation = false)
    (hexcused : Excused b request events) (hno : b.state = .initialized →
      16 + request.data.extent + request.objects.extent ≤ 0x400 → ∀ a, ¬ Answered events (.ok a)) :
    ToldApart b staging request (.error e) events where
  broken word := by
    constructor
    · rintro ⟨_, ⟨⟩, hviolation, -⟩
      exact absurd (he.symm.trans hviolation) (by decide)
    · rintro ⟨hb, hfits, a, ha, -⟩
      exact absurd ha (hno hb hfits a)
  excused := by
    rintro _ ⟨⟩
    exact ⟨fun _ => hexcused, fun _ => he⟩

/-- **Breaches of the protocol are told apart from other failures.**  Whatever the binder, the request, the transport and
what it answers: a transaction fails with a breach of the protocol exactly if it was sent and the answer breaks the
protocol, and this lowers to the status of how it does; it fails with anything else exactly if it is excused. -/
theorem transact_violation {σ : Type} (t : Transport σ) (s : σ) (b : Binder) (staging : Staging) (code flags : UInt32)
    (request reply : Parcel) :
    let run := (b.transact staging code flags request reply).run t s
    ToldApart b staging request run.value.1 run.events := by
  by_cases hb : b.state ≠ .initialized
  · rw [transact_idle staging code flags hb]
    exact toldApart_unanswered rfl (.idle hb) fun h => absurd h hb
  have hb := Decidable.not_not.1 hb
  by_cases hlarge : 0x400 < 16 + request.data.extent + request.objects.extent
  · rw [transact_large staging code flags hb hlarge]
    exact toldApart_unanswered rfl (.large hlarge) fun _ hfits => absurd hlarge (Nat.not_lt.2 hfits)
  obtain ⟨answer, notices, hevents, hvalue⟩ :=
    (run_of_ensures t trivial (ensures_ended staging code flags hb (Nat.le_of_not_lt hlarge) reply) s).2
  have hanswered : ∀ answer', Answered ((b.transact staging code flags request reply).run t s).events answer' ↔
      answer' = answer := by
    intro answer'
    rw [← List.nil_append (Run.events _), hevents, answered_iff]
  intro run
  change run.value = _ at hvalue
  rw [hvalue]
  cases answer with
  | error f =>
    refine toldApart_unanswered rfl (.unsent ((hanswered _).2 rfl)) fun _ _ a ha => ?_
    cases (hanswered _).1 ha
  | ok a =>
    refine ⟨fun word => ?_, fun e he => ending_excused_iff hb hlarge hanswered he⟩
    rw [ending_violates_iff]
    constructor
    · intro h
      exact ⟨hb, Nat.le_of_not_lt hlarge, a, (hanswered _).2 rfl, h⟩
    · rintro ⟨-, -, a', ha, h⟩
      cases (hanswered _).1 ha
      exact h

end Binder
end HorizonIpc
