import HorizonIpc.Parcel.Basic
import HorizonIpc.Proofs.Parcel.Area
/-!
# Proofs.Parcel.Restore — readers that put back what they took

The attempts that change nothing when they fail (`Attempt.Restores`) are not closed under `>>=`, so that a reader of
several values has to take back the first ones when a later one fails.  The reader of an interface token puts the read
position back, and that is all there is to take back: the readers that it is made of move nothing else (`Moves`).
-/
namespace HorizonIpc

namespace Attempt

variable {σ τ ε α β : Type} {x : Attempt σ ε α}

/-- An attempt that leaves the state as it was if it fails. -/
def Restores (x : Attempt σ ε α) : Prop := ∀ s e s', x.on s = (.error e, s') → s' = s

theorem restores_modify (g : σ → σ) : Restores (modify g : Attempt σ ε PUnit) := by
  intro s e s' hrun
  cases hrun

theorem Restores.map {g : α → β} (hx : Restores x) : Restores (g <$> x) := by
  intro s e s' hrun
  rw [on_map] at hrun
  rcases hstep : x.on s with ⟨e' | a, t⟩ <;> rw [hstep] at hrun
  · cases hrun
    exact hx s e t hstep
  · cases hrun

theorem Restores.inside {part : τ → σ} {put : τ → σ → τ} (hx : Restores x) (hput : ∀ t, put t (part t) = t) :
    Restores (x.inside part put) := by
  intro t e t' hrun
  rw [on_inside] at hrun
  rcases hstep : x.on (part t) with ⟨e' | a, s⟩ <;> rw [hstep] at hrun
  · cases hrun
    rw [hx _ _ _ hstep, hput]
  · cases hrun

/-- **An attempt made atomically** takes back whatever it did before it failed. -/
theorem restores_atomically (x : Attempt σ ε α) : Restores x.atomically := by
  intro s e s' hrun
  rw [on_atomically] at hrun
  rcases hstep : x.on s with ⟨e' | a, t⟩ <;> rw [hstep] at hrun
  · cases hrun
    rfl
  · cases hrun

end Attempt

namespace Parcel

open Attempt (Restores restores_atomically)

theorem Area.restores_take (len : Nat) : Restores (Area.take len) := by
  intro a e a' hrun
  rcases Nat.lt_or_ge a.extent (a.cursor + padded len) with hbeyond | hinside
  · rw [take_beyond hbeyond] at hrun
    cases hrun
    rfl
  · rw [take_inside hinside] at hrun
    cases hrun

theorem restores_onData {α : Type} {x : Attempt Area Error α} (hx : Restores x) : Restores (onData x) :=
  hx.inside fun _ => rfl

theorem restores_onObjects {α : Type} {x : Attempt Area Error α} (hx : Restores x) : Restores (onObjects x) :=
  hx.inside fun _ => rfl

theorem restores_readData (len : Nat) : Restores (readData len) := restores_onData (Area.restores_take len)

theorem restores_readObject (len : Nat) : Restores (readObject len) := restores_onObjects (Area.restores_take len)

theorem restores_readInt32 : Restores readInt32 := (restores_readData 4).map.map

/-! ## Read positions -/

section Moves

variable {α β : Type} {x : Attempt Parcel Error α} {f : α → Attempt Parcel Error β}

theorem seek_seek (p : Parcel) (m n : Nat) : (p.seek m).seek n = p.seek n := rfl

/-- An attempt that changes nothing but the read position of the data area, whether it answers or fails. -/
def Moves (x : Attempt Parcel Error α) : Prop := ∀ p, (x.on p).2.seek p.data.cursor = p

theorem moves_pure (a : α) : Moves (pure a) := fun _ => rfl

theorem moves_ofExcept (r : Except Error α) : Moves (Attempt.ofExcept r) := fun _ => rfl

theorem Moves.map {g : α → β} (hx : Moves x) : Moves (g <$> x) := by
  intro p
  rw [Attempt.on_map]
  exact hx p

/-- **One attempt after another** moves what both move. -/
theorem Moves.bind (hx : Moves x) (hf : ∀ a, Moves (f a)) : Moves (x >>= f) := by
  intro p
  have hfirst := hx p
  rw [Attempt.on_bind]
  rcases hrun : x.on p with ⟨e | a, p'⟩ <;> rw [hrun] at hfirst
  · exact hfirst
  · calc ((f a).on p').2.seek p.data.cursor
      _ = (((f a).on p').2.seek p'.data.cursor).seek p.data.cursor := (seek_seek _ _ _).symm
      _ = p'.seek p.data.cursor := by rw [hf a p']
      _ = p := hfirst

theorem Moves.ite {c : Prop} [Decidable c] {y : Attempt Parcel Error α} (hx : Moves x) (hy : Moves y) :
    Moves (if c then x else y) := by
  split
  · exact hx
  · exact hy

theorem Moves.atomically (hx : Moves x) : Moves x.atomically := by
  intro p
  have hsame := hx p
  rw [Attempt.on_atomically]
  rcases hrun : x.on p with ⟨e | a, p'⟩ <;> rw [hrun] at hsame
  · rfl
  · exact hsame

theorem moves_readData (len : Nat) : Moves (readData len) := by
  intro p
  unfold readData onData
  rw [Attempt.on_inside]
  rcases Nat.lt_or_ge p.data.extent (p.data.cursor + padded len) with hbeyond | hinside
  · rw [Area.take_beyond hbeyond]
    rfl
  · rw [Area.take_inside hinside]
    rfl

theorem moves_readInt32 : Moves readInt32 := (moves_readData 4).map.map

theorem moves_readString16 (room : Nat) : Moves (readString16 room) :=
  .atomically <| .bind moves_readInt32 fun _ => .ite (moves_pure _) <| .bind (moves_ofExcept _) fun _ =>
    .bind (moves_readData _) fun _ => .bind (moves_ofExcept _) fun _ => moves_pure _

end Moves

/-- **The reader of an interface token is atomic**: with the read position it puts everything back. -/
theorem readInterfaceToken_eq (room : Nat) : readInterfaceToken room = Attempt.atomically (do
    let _ ← readInt32
    match ← readString16 room with
    | some name => return name
    | none => throw .nullInterfaceToken) := by
  refine Attempt.ext fun p => ?_
  have hback := (moves_readInt32.bind fun _ => moves_readString16 room) p
  unfold readInterfaceToken
  simp only [Attempt.on_atomically, Attempt.on_bind, Attempt.on_get, Attempt.on_observing] at hback ⊢
  rcases hmarker : readInt32.on p with ⟨e | marker, p'⟩ <;> rw [hmarker] at hback
  · rw [restores_readInt32 p e p' hmarker]
  dsimp only at hback ⊢
  rcases hname : (readString16 room).on p' with ⟨e | _ | name, p''⟩ <;> rw [hname] at hback
  · exact congrArg (Prod.mk _) hback
  · exact congrArg (Prod.mk _) hback
  · rfl

theorem restores_readInterfaceToken (room : Nat) : Restores (readInterfaceToken room) := by
  rw [readInterfaceToken_eq]
  exact restores_atomically _

end Parcel
end HorizonIpc
