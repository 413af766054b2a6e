import HorizonIpc.Session.Failure
/-!
# Proofs.Session.Failure — which kernel statuses come back as they were reported

A send and a close tell some kernel statuses apart, and lower them again to the kernel's own words.  They look at the
description alone, so a status of another module, or one with bits above the description, loses these if its
description is one of those told apart.  Every other status comes back as it was reported (`surfaced_iff`).
-/
namespace HorizonIpc

/-- **Lowering after telling some kernel statuses apart by their descriptions**: one of those becomes the kernel's own
word, and any other status stays. -/
structure ErrorCode.LowersBy (told : KernelStatus → Prop) (lower : ErrorCode → UInt32) : Prop where
  known : ∀ {e : ErrorCode} {k : KernelStatus}, told k → e.description = k.description → lower e = Coded.status k
  other : ∀ {e : ErrorCode}, (∀ k, told k → e.description ≠ k.description) → lower e = e.word

theorem ErrorCode.ext_word {e e' : ErrorCode} (h : e.word = e'.word) : e = e' := by
  cases e
  cases e'
  cases h
  rfl

namespace KernelStatus

theorem word_inj {k k' : KernelStatus} (h : Coded.status k = Coded.status k') : k = k' := by
  revert h
  cases k <;> cases k' <;> decide

theorem ofDescription?_eq_some_iff {d : UInt32} {k : KernelStatus} :
    ofDescription? d = some k ↔ d = k.description := by
  constructor
  · unfold ofDescription?
    intro h
    repeat' split at h
    all_goals cases h
    all_goals assumption
  · rintro rfl
    exact ofDescription?_description k

theorem description_of_word {e : ErrorCode} {k : KernelStatus} (h : e.word = Coded.status k) :
    e.description = k.description := by
  unfold ErrorCode.description
  rw [h]
  cases k <;> decide

end KernelStatus

namespace ErrorCode.LowersBy

variable {told : KernelStatus → Prop} {lower : ErrorCode → UInt32}

theorem told_or_not (told : KernelStatus → Prop) (e : ErrorCode) :
    (∃ k, told k ∧ e.description = k.description) ∨ ∀ k, told k → e.description ≠ k.description := by
  by_cases h : ∃ k, told k ∧ e.description = k.description
  · exact .inl h
  · exact .inr fun k hk hd => h ⟨k, hk, hd⟩

/-- **A status comes back as it was reported exactly if it is not told apart, or is the kernel's own word.** -/
theorem eq_word_iff (h : LowersBy told lower) (e : ErrorCode) :
    lower e = e.word ↔ ∀ k, told k → e.description = k.description → e.word = Coded.status k := by
  constructor
  · intro hlower k hk hd
    rw [← hlower, h.known hk hd]
  · intro hword
    rcases told_or_not told e with ⟨k, hk, hd⟩ | hno
    · rw [h.known hk hd, hword k hk hd]
    · exact h.other hno

/-- **Two statuses come back as one exactly if they are the same, or are told apart by the same description.** -/
theorem eq_iff (h : LowersBy told lower) (e e' : ErrorCode) :
    lower e = lower e' ↔ e = e' ∨ ∃ k, told k ∧ e.description = k.description ∧ e'.description = k.description := by
  constructor
  · intro heq
    rcases told_or_not told e with ⟨k, hk, hd⟩ | hno <;> rcases told_or_not told e' with ⟨k', hk', hd'⟩ | hno'
    · rw [h.known hk hd, h.known hk' hd'] at heq
      exact .inr ⟨k, hk, hd, by rw [hd', KernelStatus.word_inj heq]⟩
    -- the kernel's word has the description it is told apart by, so a status that is not told apart never meets it
    · rw [h.known hk hd, h.other hno'] at heq
      exact absurd (KernelStatus.description_of_word heq.symm) (hno' k hk)
    · rw [h.other hno, h.known hk' hd'] at heq
      exact absurd (KernelStatus.description_of_word heq) (hno k' hk')
    · rw [h.other hno, h.other hno'] at heq
      exact .inl (ErrorCode.ext_word heq)
  · rintro (rfl | ⟨k, hk, hd, hd'⟩)
    · rfl
    · rw [h.known hk hd, h.known hk hd']

end ErrorCode.LowersBy

theorem SendError.lowersBy : ErrorCode.LowersBy (fun _ => True) fun e => Coded.status (SendError.ofCode e) where
  known := by
    intro e k _ hd
    have hk := KernelStatus.ofDescription?_eq_some_iff.2 hd
    unfold ofCode
    rw [hk]
    cases k <;> rfl
  other := by
    intro e hno
    have hnone : KernelStatus.ofDescription? e.description = none :=
      Option.eq_none_iff_forall_ne_some.2 fun k hk => hno k trivial (KernelStatus.ofDescription?_eq_some_iff.1 hk)
    unfold ofCode
    rw [hnone]
    rfl

theorem CloseError.lowersBy :
    ErrorCode.LowersBy (· = .invalidHandle) fun e => Coded.status (CloseError.ofCode e) where
  known := by
    rintro e k rfl hd
    have hk := KernelStatus.ofDescription?_eq_some_iff.2 hd
    unfold ofCode
    rw [hk]
    rfl
  other := by
    intro e hno
    unfold ofCode
    split
    · rename_i hk
      exact absurd (KernelStatus.ofDescription?_eq_some_iff.1 hk) (hno _ rfl)
    · rfl

theorem ErrorCode.ofWord?_word (e : ErrorCode) : ofWord? e.word = some e := ofWord?_eq_some_iff.2 rfl

/-- **Which failures of the kernel are surfaced as they were reported.**  Every status other than success is an error.
It lowers to the word reported exactly if that is the kernel's own word for its description, or the description is none
of those told apart; and two statuses lower to the same word exactly if they are the same, or have the same description
and it is one of those. -/
theorem surfaced_iff (e : ErrorCode) :
    (∃ f, SendError.check e.word = .error f ∧
      (Coded.status f = e.word ↔ ∀ k : KernelStatus, e.description = k.description → e.word = Coded.status k) ∧
      ∀ (e' : ErrorCode) f', SendError.check e'.word = .error f' → (Coded.status f = Coded.status f' ↔
        e = e' ∨ ∃ k : KernelStatus, e.description = k.description ∧ e'.description = k.description)) ∧
    ∃ f, CloseError.check e.word = .error f ∧
      (Coded.status f = e.word ↔ (e.description = KernelStatus.invalidHandle.description →
        e.word = Coded.status KernelStatus.invalidHandle)) ∧
      ∀ (e' : ErrorCode) f', CloseError.check e'.word = .error f' → (Coded.status f = Coded.status f' ↔
        e = e' ∨ e.description = KernelStatus.invalidHandle.description ∧
          e'.description = KernelStatus.invalidHandle.description) := by
  have hsend : ∀ e : ErrorCode, SendError.check e.word = .error (SendError.ofCode e) := fun e => by
    rw [SendError.check, e.ofWord?_word]
  have hclose : ∀ e : ErrorCode, CloseError.check e.word = .error (CloseError.ofCode e) := fun e => by
    rw [CloseError.check, e.ofWord?_word]
  refine ⟨⟨_, hsend e, ?_, fun e' f' hf' => ?_⟩, ⟨_, hclose e, ?_, fun e' f' hf' => ?_⟩⟩
  · simpa only [forall_const] using SendError.lowersBy.eq_word_iff e
  · rw [hsend e'] at hf'
    cases hf'
    simpa only [true_and] using SendError.lowersBy.eq_iff e e'
  · simpa only [forall_eq] using CloseError.lowersBy.eq_word_iff e
  · rw [hclose e'] at hf'
    cases hf'
    simpa only [exists_eq_left] using CloseError.lowersBy.eq_iff e e'

/-- The description of an invalid handle in a word of another module: neither a send nor a close surfaces it. -/
theorem surfaced_foreign :
    SendError.check 0xE402 = .error .invalidHandle ∧ Coded.status SendError.invalidHandle ≠ 0xE402 ∧
      CloseError.check 0xE402 = .error .invalidHandle ∧ Coded.status CloseError.invalidHandle ≠ 0xE402 ∧
      SendError.check 0xE401 = SendError.check 0xE402 ∧ CloseError.check 0xE401 = CloseError.check 0xE402 :=
  ⟨rfl, by decide, rfl, by decide, rfl, rfl⟩

end HorizonIpc
