/-!
# Attempt — steps that may fail and keep what they did before

An attempt works on a state of type `σ` and ends with an answer or with an error of type `ε`; either way the state it
reached is there.  So "a failure leaves the state as it was" is a property of each attempt, to be proved, and not a
matter of course.  The `on_` lemmas say how an attempt built from parts runs.
-/
namespace HorizonIpc

/-- A step on a state of type `σ` that answers or fails with an `ε`, and leaves a state in both cases. -/
abbrev Attempt (σ ε : Type) : Type → Type := ExceptT ε (StateM σ)

namespace Attempt

variable {σ τ ε α β : Type}

/-- The outcome of an attempt and the state it leaves. -/
def on (x : Attempt σ ε α) (s : σ) : Except ε α × σ := StateT.run (ExceptT.run x) s

def ofRun (f : σ → Except ε α × σ) : Attempt σ ε α := ExceptT.mk f

/-- An answer or an error reached without looking at the state. -/
def ofExcept (r : Except ε α) : Attempt σ ε α := ofRun fun s => (r, s)

/-- An attempt on a part of the state: `get` cuts the part out and `put` writes it back, also after a failure. -/
def inside (get : τ → σ) (put : τ → σ → τ) (x : Attempt σ ε α) : Attempt τ ε α :=
  ofRun fun t => ((x.on (get t)).1, put t (x.on (get t)).2)

def mapError {ε' : Type} (f : ε → ε') (x : Attempt σ ε α) : Attempt σ ε' α :=
  ofRun fun s => ((x.on s).1.mapError f, (x.on s).2)

/-- The same attempt, but a failure takes back what was done before it. -/
def atomically (x : Attempt σ ε α) : Attempt σ ε α :=
  ofRun fun s => match x.on s with
    | (.ok a, s') => (.ok a, s')
    | (.error e, _) => (.error e, s)

@[simp] theorem on_ofRun (f : σ → Except ε α × σ) (s : σ) : (ofRun f).on s = f s := rfl

@[simp] theorem on_pure (a : α) (s : σ) : (pure a : Attempt σ ε α).on s = (.ok a, s) := rfl

@[simp] theorem on_throw (e : ε) (s : σ) : (throw e : Attempt σ ε α).on s = (.error e, s) := rfl

@[simp] theorem on_get (s : σ) : (get : Attempt σ ε σ).on s = (.ok s, s) := rfl

@[simp] theorem on_set (s' s : σ) : (set s' : Attempt σ ε PUnit).on s = (.ok ⟨⟩, s') := rfl

@[simp] theorem on_modify (f : σ → σ) (s : σ) : (modify f : Attempt σ ε PUnit).on s = (.ok ⟨⟩, f s) := rfl

@[simp] theorem on_ofExcept (r : Except ε α) (s : σ) : (ofExcept r : Attempt σ ε α).on s = (r, s) := rfl

@[simp] theorem on_ite (c : Prop) [Decidable c] (x y : Attempt σ ε α) (s : σ) :
    (if c then x else y).on s = if c then x.on s else y.on s := by
  split <;> rfl

@[simp] theorem on_bind (x : Attempt σ ε α) (f : α → Attempt σ ε β) (s : σ) :
    (x >>= f).on s = match x.on s with
      | (.ok a, s') => (f a).on s'
      | (.error e, s') => (.error e, s') := by
  show StateT.run (ExceptT.run x >>= ExceptT.bindCont f) s = _
  rw [StateT.run_bind]
  show (ExceptT.bindCont f (x.on s).1 (x.on s).2) = _
  rcases x.on s with ⟨_ | _, _⟩ <;> rfl

@[simp] theorem on_map (f : α → β) (x : Attempt σ ε α) (s : σ) :
    (f <$> x).on s = ((x.on s).1.map f, (x.on s).2) := by
  rw [← bind_pure_comp, on_bind]
  rcases x.on s with ⟨_ | _, _⟩ <;> rfl

@[simp] theorem on_tryCatch (x : Attempt σ ε α) (handle : ε → Attempt σ ε α) (s : σ) :
    (tryCatch x handle : Attempt σ ε α).on s = match x.on s with
      | (.ok a, s') => (.ok a, s')
      | (.error e, s') => (handle e).on s' := by
  unfold on
  rw [ExceptT.run_tryCatch, StateT.run_bind]
  rcases StateT.run (ExceptT.run x) s with ⟨_ | _, _⟩ <;> rfl

@[simp] theorem on_observing (x : Attempt σ ε α) (s : σ) :
    (observing x : Attempt σ ε (Except ε α)).on s = (.ok (x.on s).1, (x.on s).2) := by
  unfold observing
  rw [on_tryCatch, on_bind]
  rcases x.on s with ⟨_ | _, _⟩ <;> rfl

theorem ext {x y : Attempt σ ε α} (h : ∀ s, x.on s = y.on s) : x = y := funext h

/-- An attempt whose outcome is an answer ends with it. -/
theorem on_eq_ok {x : Attempt σ ε α} {s : σ} {a : α} (h : (x.on s).1.toOption = some a) :
    x.on s = (.ok a, (x.on s).2) := by
  generalize x.on s = r at h ⊢
  rcases r with ⟨_ | b, s'⟩
  · cases h
  · cases h
    rfl

/-- The error of an outcome that is none of an answer. -/
def error? : Except ε α → Option ε
  | .error e => some e
  | .ok _ => none

theorem eq_error {r : Except ε α} {e : ε} (h : error? r = some e) : r = .error e := by
  cases r with
  | ok a => cases h
  | error e' =>
    cases h
    rfl

theorem on_eq_error {x : Attempt σ ε α} {s : σ} {e : ε} (h : error? (x.on s).1 = some e) :
    x.on s = (.error e, (x.on s).2) :=
  Prod.ext (eq_error h) rfl

@[simp] theorem on_mapError {ε' : Type} (f : ε → ε') (x : Attempt σ ε α) (s : σ) :
    (x.mapError f).on s = ((x.on s).1.mapError f, (x.on s).2) := rfl

@[simp] theorem mapError_ok {ε' : Type} (f : ε → ε') (a : α) : (Except.ok a : Except ε α).mapError f = .ok a := rfl

@[simp] theorem mapError_error {ε' : Type} (f : ε → ε') (e : ε) :
    (Except.error e : Except ε α).mapError f = .error (f e) := rfl

@[simp] theorem on_inside (get : τ → σ) (put : τ → σ → τ) (x : Attempt σ ε α) (t : τ) :
    (x.inside get put).on t = ((x.on (get t)).1, put t (x.on (get t)).2) := rfl

@[simp] theorem on_atomically (x : Attempt σ ε α) (s : σ) :
    x.atomically.on s = match x.on s with
      | (.ok a, s') => (.ok a, s')
      | (.error e, _) => (.error e, s) := rfl

end Attempt
end HorizonIpc
