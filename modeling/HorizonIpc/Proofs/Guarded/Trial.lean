import HorizonIpc.Attempt
/-!
# Proofs.Guarded.Trial — attempts whose steps can be faults

A trial is an attempt that may also stop with a fault on the way, and then there is neither an outcome nor a state.  A
trial follows an attempt from the states where some property holds if it meets no fault there, ends as the attempt does,
and the property holds again (`Trial.Follows`).  Trials that are put together as the attempts are follow them.
-/
namespace HorizonIpc
namespace Guarded

/-- A step on a state that answers, fails, or is a fault. -/
abbrev Trial (σ ε : Type) : Type → Type := ExceptT ε (StateT σ Option)

namespace Trial

variable {σ τ ε α β : Type}

/-- The outcome of a trial and the state it leaves, unless it meets a fault. -/
def on (x : Trial σ ε α) (s : σ) : Option (Except ε α × σ) := StateT.run (ExceptT.run x) s

def ofRun (f : σ → Option (Except ε α × σ)) : Trial σ ε α := ExceptT.mk f

/-- A computation that is a fault or has a value. -/
def step (x : Option α) : Trial σ ε α := ofRun fun s => x.map fun a => (.ok a, s)

def ofExcept (r : Except ε α) : Trial σ ε α := ofRun fun s => some (r, s)

/-- A trial on a part of the state. -/
def inside (part : τ → σ) (put : τ → σ → τ) (x : Trial σ ε α) : Trial τ ε α :=
  ofRun fun t => (x.on (part t)).map fun r => (r.1, put t r.2)

/-- The same trial, but a failure takes back what was done before it. -/
def atomically (x : Trial σ ε α) : Trial σ ε α :=
  ofRun fun s => (x.on s).map fun
    | (.ok a, s') => (.ok a, s')
    | (.error e, _) => (.error e, s)

section on

variable (s : σ)

@[simp] theorem on_ofRun (f : σ → Option (Except ε α × σ)) : (ofRun f).on s = f s := rfl

@[simp] theorem on_pure (a : α) : (pure a : Trial σ ε α).on s = some (.ok a, s) := rfl

@[simp] theorem on_throw (e : ε) : (throw e : Trial σ ε α).on s = some (.error e, s) := rfl

@[simp] theorem on_get : (get : Trial σ ε σ).on s = some (.ok s, s) := rfl

@[simp] theorem on_set (s' : σ) : (set s' : Trial σ ε PUnit).on s = some (.ok ⟨⟩, s') := rfl

@[simp] theorem on_modify (f : σ → σ) : (modify f : Trial σ ε PUnit).on s = some (.ok ⟨⟩, f s) := rfl

@[simp] theorem on_step_some (a : α) : (step (some a) : Trial σ ε α).on s = some (.ok a, s) := rfl

@[simp] theorem on_ofExcept (r : Except ε α) : (ofExcept r : Trial σ ε α).on s = some (r, s) := rfl

@[simp] theorem on_inside (part : τ → σ) (put : τ → σ → τ) (x : Trial σ ε α) (t : τ) :
    (x.inside part put).on t = (x.on (part t)).map fun r => (r.1, put t r.2) := rfl

@[simp] theorem on_atomically (x : Trial σ ε α) :
    x.atomically.on s = (x.on s).map fun
      | (.ok a, s') => (.ok a, s')
      | (.error e, _) => (.error e, s) := rfl

@[simp] theorem on_bind (x : Trial σ ε α) (f : α → Trial σ ε β) :
    (x >>= f).on s = (x.on s).bind fun
      | (.ok a, s') => (f a).on s'
      | (.error e, s') => some (.error e, s') := by
  show (x.on s).bind (fun r => ExceptT.bindCont f r.1 r.2) = _
  congr 1
  funext r
  rcases r with ⟨_ | _, _⟩ <;> rfl

@[simp] theorem on_map (f : α → β) (x : Trial σ ε α) :
    (f <$> x).on s = (x.on s).map fun r => (r.1.map f, r.2) := by
  rw [← bind_pure_comp, on_bind]
  rcases x.on s with _ | ⟨_ | _, _⟩ <;> rfl

end on

/-- **A trial follows an attempt** from the states where `P` holds: it meets no fault and ends as the attempt does, `P`
holds again, and `Q` holds of an answer. -/
def Follows (P : σ → Prop) (x : Trial σ ε α) (y : Attempt σ ε α) (Q : α → Prop) : Prop :=
  ∀ s, P s → x.on s = some (y.on s) ∧ P (y.on s).2 ∧ ∀ a, (y.on s).1 = .ok a → Q a

section closure

variable {P : σ → Prop} {x x' : Trial σ ε α} {y y' : Attempt σ ε α} {Q Q' : α → Prop}

theorem Follows.imp (h : Follows P x y Q) (hQ : ∀ a, Q a → Q' a) : Follows P x y Q' := by
  intro s hs
  obtain ⟨hrun, hend, hvalue⟩ := h s hs
  exact ⟨hrun, hend, fun a ha => hQ a (hvalue a ha)⟩

theorem Follows.pure {a : α} (ha : Q a) : Follows P (pure a : Trial σ ε α) (pure a) Q := by
  intro s hs
  refine ⟨rfl, hs, ?_⟩
  rintro _ ⟨⟩
  exact ha

theorem Follows.throw (e : ε) : Follows P (throw e : Trial σ ε α) (throw e) Q :=
  fun _ hs => ⟨rfl, hs, nofun⟩

theorem Follows.ofExcept {r : Except ε α} (hr : ∀ a, r = .ok a → Q a) :
    Follows P (ofExcept r : Trial σ ε α) (Attempt.ofExcept r) Q := fun _ hs => ⟨rfl, hs, hr⟩

theorem Follows.modify {f : σ → σ} (hf : ∀ s, P s → P (f s)) :
    Follows P (modify f : Trial σ ε PUnit) (modify f) fun _ => True :=
  fun s hs => ⟨rfl, hf s hs, fun _ _ => trivial⟩

theorem Follows.bind {f : α → Trial σ ε β} {g : α → Attempt σ ε β} {R : β → Prop} (hx : Follows P x y Q)
    (hf : ∀ a, Q a → Follows P (f a) (g a) R) : Follows P (x >>= f) (y >>= g) R := by
  intro s hs
  obtain ⟨hrun, hend, hvalue⟩ := hx s hs
  rw [on_bind, Attempt.on_bind, hrun]
  rcases hy : y.on s with ⟨e | a, s'⟩ <;> rw [hy] at hend hvalue
  · exact ⟨rfl, hend, nofun⟩
  · exact hf a (hvalue a rfl) s' hend

theorem Follows.map {f : α → β} {R : β → Prop} (hx : Follows P x y Q) (hf : ∀ a, Q a → R (f a)) :
    Follows P (f <$> x) (f <$> y) R := by
  intro s hs
  obtain ⟨hrun, hend, hvalue⟩ := hx s hs
  rw [on_map, Attempt.on_map, hrun]
  refine ⟨rfl, hend, fun b hb => ?_⟩
  rcases hy : (y.on s).1 with e | a <;> rw [hy] at hb hvalue
  · cases hb
  · cases hb
    exact hf a (hvalue a rfl)

theorem Follows.mapped {f : α → β} (hx : Follows P x y Q) : Follows P (f <$> x) (f <$> y) fun _ => True :=
  hx.map fun _ _ => trivial

theorem Follows.ite {c : Prop} [Decidable c] (hx : c → Follows P x y Q) (hx' : ¬ c → Follows P x' y' Q) :
    Follows P (if c then x else x') (if c then y else y') Q := by
  split
  · exact hx ‹_›
  · exact hx' ‹_›

theorem Follows.atomically (hx : Follows P x y Q) : Follows P x.atomically y.atomically Q := by
  intro s hs
  obtain ⟨hrun, hend, hvalue⟩ := hx s hs
  rw [on_atomically, Attempt.on_atomically, hrun]
  rcases hy : y.on s with ⟨e | a, s'⟩ <;> rw [hy] at hend hvalue
  · exact ⟨rfl, hs, nofun⟩
  · exact ⟨rfl, hend, hvalue⟩

theorem Follows.inside {S : τ → Prop} {part : τ → σ} {put : τ → σ → τ} (hx : Follows P x y Q) (hpart : ∀ t, S t → P (part t))
    (hput : ∀ t s, S t → P s → S (put t s)) : Follows S (x.inside part put) (y.inside part put) Q := by
  intro t ht
  obtain ⟨hrun, hend, hvalue⟩ := hx (part t) (hpart t ht)
  rw [on_inside, Attempt.on_inside, hrun]
  exact ⟨rfl, hput t _ ht hend, hvalue⟩

/-- A computation that has its value is no step of the attempt. -/
theorem Follows.step {v : Option β} {b : β} {f : β → Trial σ ε α} (hv : v = some b) (h : Follows P (f b) y Q) :
    Follows P (step v >>= f) y Q := by
  intro s hs
  rw [on_bind, hv, on_step_some]
  exact h s hs

/-- So is a check of the answer that only lets it pass. -/
theorem Follows.checked {f : α → Option α} (hx : Follows P x y Q) (hf : ∀ a, Q a → f a = some a) :
    Follows P (x >>= fun a => Trial.step (f a)) y Q := by
  intro s hs
  obtain ⟨hrun, hend, hvalue⟩ := hx s hs
  rw [on_bind, hrun]
  rcases hy : y.on s with ⟨e | a, s'⟩ <;> rw [hy] at hend hvalue
  · exact ⟨rfl, hend, hvalue⟩
  · refine ⟨?_, hend, hvalue⟩
    show (Trial.step (f a)).on s' = _
    rw [hf a (hvalue a rfl), on_step_some]

end closure
end Trial
end Guarded
end HorizonIpc
