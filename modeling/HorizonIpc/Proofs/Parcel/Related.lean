import HorizonIpc.Parcel.Operation
import HorizonIpc.Proofs.Parcel.Restore
import HorizonIpc.Proofs.Parcel.Wire
/-!
# Proofs.Parcel.Related — what the operations do to related parcels

Most of what is to be said of all operations comes from what is to be said of the few on one area: a relation between
areas that those keep, and of which the extent and the contents are a part, is kept by every operation on a parcel, and
the operation has the same answer on both sides (`Lasting.respects_perform`).  An invariant is a relation of a parcel to
itself.  What a clear and a reply do not keep is still kept by all the other operations (`Steady.respects_perform`).

`Attempt.Respects R` is the property of one attempt: from related states it ends in the same way, and in related states,
also if it fails.  It is closed under the ways in which attempts are put together, but for a look at the whole state,
where what follows has to be the same for both.
-/
namespace HorizonIpc

namespace Attempt

variable {σ τ ε α β : Type} {R : σ → σ → Prop} {S : τ → τ → Prop} {x y : Attempt σ ε α} {f : α → Attempt σ ε β}

def Respects (R : σ → σ → Prop) (x : Attempt σ ε α) : Prop :=
  ∀ s t, R s t → (x.on s).1 = (x.on t).1 ∧ R (x.on s).2 (x.on t).2

theorem Respects.pure (a : α) : Respects R (pure a : Attempt σ ε α) := fun _ _ h => ⟨rfl, h⟩

theorem Respects.throw (e : ε) : Respects R (throw e : Attempt σ ε α) := fun _ _ h => ⟨rfl, h⟩

theorem Respects.ofExcept (r : Except ε α) : Respects R (ofExcept r : Attempt σ ε α) := fun _ _ h => ⟨rfl, h⟩

theorem Respects.modify {g : σ → σ} (hg : ∀ s t, R s t → R (g s) (g t)) :
    Respects R (modify g : Attempt σ ε PUnit) := fun s t h => ⟨rfl, hg s t h⟩

theorem Respects.bind (hx : Respects R x) (hf : ∀ a, Respects R (f a)) : Respects R (x >>= f) := by
  intro s t h
  obtain ⟨hout, hrel⟩ := hx s t h
  rw [on_bind, on_bind]
  rcases hs : x.on s with ⟨e | a, s'⟩ <;> rcases ht : x.on t with ⟨e' | a', t'⟩ <;> rw [hs, ht] at hout hrel
  · cases hout
    exact ⟨rfl, hrel⟩
  · cases hout
  · cases hout
  · cases hout
    exact hf a s' t' hrel

theorem Respects.map {g : α → β} (hx : Respects R x) : Respects R (g <$> x) := by
  intro s t h
  obtain ⟨hout, hrel⟩ := hx s t h
  rw [on_map, on_map, hout]
  exact ⟨rfl, hrel⟩

theorem Respects.ite {c : Prop} [Decidable c] (hx : Respects R x) (hy : Respects R y) :
    Respects R (if c then x else y) := by
  split
  · exact hx
  · exact hy

theorem Respects.atomically (hx : Respects R x) : Respects R x.atomically := by
  intro s t h
  obtain ⟨hout, hrel⟩ := hx s t h
  rw [on_atomically, on_atomically]
  rcases hs : x.on s with ⟨e | a, s'⟩ <;> rcases ht : x.on t with ⟨e' | a', t'⟩ <;> rw [hs, ht] at hout hrel
  · cases hout
    exact ⟨rfl, h⟩
  · cases hout
  · cases hout
  · cases hout
    exact ⟨rfl, hrel⟩

theorem Respects.inside {part : τ → σ} {put : τ → σ → τ} (hx : Respects R x)
    (hpart : ∀ t u, S t u → R (part t) (part u))
    (hput : ∀ t u s s', S t u → R s s' → S (put t s) (put u s')) : Respects S (x.inside part put) := by
  intro t u h
  obtain ⟨hout, hrel⟩ := hx _ _ (hpart t u h)
  exact ⟨hout, hput t u _ _ h hrel⟩

/-- **A look at the state** is harmless if what follows it is the same for related states. -/
theorem Respects.look {k : σ → Attempt σ ε α} (hsame : ∀ s t, R s t → k s = k t) (hk : ∀ s, Respects R (k s)) :
    Respects R (get >>= k) := by
  intro s t h
  simp only [on_bind, on_get]
  rw [hsame s t h]
  exact hk t s t h

end Attempt

namespace Parcel

open Attempt (Respects)

/-- A relation between areas that the operations on one area keep that add to it or read from it, and that covers what is
seen of an area from outside. -/
structure Steady (R : Area → Area → Prop) : Prop where
  append : ∀ full bs, Respects R (Area.append full bs)
  take : ∀ len, Respects R (Area.take len)
  rewind : ∀ a b, R a b → R a.rewind b.rewind
  extent : ∀ a b, R a b → a.extent = b.extent
  written : ∀ a b, R a b → a.written = b.written

/-- A steady relation that the operations keep as well that put something else in place of what an area holds. -/
structure Lasting (R : Area → Area → Prop) : Prop extends Steady R where
  clear : ∀ a b, R a b → R a.clear b.clear
  replace : ∀ a b bs, R a b → bs.length ≤ capacity → R (a.replace bs) (b.replace bs)

/-- Two parcels whose areas are related, the data by `D` and the objects by `O`. -/
structure Both (D O : Area → Area → Prop) (p q : Parcel) : Prop where
  data : D p.data q.data
  objects : O p.objects q.objects

/-- Whether an operation puts something else in place of what a parcel holds. -/
def Operation.resets : Operation → Bool
  | .clear | .deserialize _ => true
  | _ => false

namespace Steady

variable {D O : Area → Area → Prop}

section Parts

variable {α : Type} {x : Attempt Area Error α}

theorem onData (hx : Respects D x) : Respects (Both D O) (onData x) :=
  hx.inside (fun _ _ h => h.data) fun _ _ _ _ h ha => ⟨ha, h.objects⟩

theorem onObjects (hx : Respects O x) : Respects (Both D O) (onObjects x) :=
  hx.inside (fun _ _ h => h.objects) fun _ _ _ _ h ha => ⟨h.data, ha⟩

end Parts

variable (hD : Steady D)
include hD

theorem needRoom (len : Nat) : Respects (Both D O) (needRoom len) := by
  refine .look (fun p q h => ?_) fun _ => .ite (.throw _) (.pure _)
  unfold Area.free
  rw [hD.extent _ _ h.data]

theorem writeData (bs : Bytes) : Respects (Both D O) (writeData bs) := onData (hD.append _ bs)

theorem readData (len : Nat) : Respects (Both D O) (readData len) := onData (hD.take len)

theorem writeString16 (s : String) : Respects (Both D O) (writeString16 s) :=
  .bind (hD.needRoom _) fun _ => .bind (hD.writeData _) fun _ => hD.writeData _

theorem writeInterfaceToken (name : String) : Respects (Both D O) (writeInterfaceToken name) :=
  .bind (hD.needRoom _) fun _ => .bind (hD.writeData _) fun _ => hD.writeString16 name

theorem writeFlattened (bs : Bytes) : Respects (Both D O) (writeFlattened bs) :=
  .bind (hD.needRoom _) fun _ => .bind (hD.writeData _) fun _ => .bind (hD.writeData _) fun _ => hD.writeData bs

theorem readInt32 : Respects (Both D O) readInt32 := (hD.readData 4).map.map

theorem readString16 (room : Nat) : Respects (Both D O) (readString16 room) :=
  .atomically <| .bind hD.readInt32 fun _ => .ite (.pure _) <| .bind (.ofExcept _) fun _ =>
    .bind (hD.readData _) fun _ => .bind (.ofExcept _) fun _ => .pure _

theorem readInterfaceToken (room : Nat) : Respects (Both D O) (readInterfaceToken room) := by
  rw [readInterfaceToken_eq]
  exact .atomically <| .bind hD.readInt32 fun _ => .bind (hD.readString16 room) fun
    | some _ => .pure _
    | none => .throw _

theorem readFlattened : Respects (Both D O) readFlattened :=
  have hread (len : Int32) : Respects (Both D O) (Attempt.ofExcept (lengthOf len) >>= Parcel.readData) :=
    .bind (.ofExcept _) hD.readData
  .atomically <| .bind hD.readInt32 fun len => .bind hD.readInt32 fun _ =>
    .ite (.bind (.throw _) fun _ => hread len) (hread len)

theorem serialize_eq (hO : Steady O) {p q : Parcel} (h : Both D O p q) (staging : Bytes) :
    p.serialize.on staging = q.serialize.on staging := by
  have hsize : p.wireSize = q.wireSize := by
    unfold wireSize
    rw [hD.extent _ _ h.data, hO.extent _ _ h.objects]
  have hwire : p.wire = q.wire := by
    unfold wire wireHeader
    rw [hD.extent _ _ h.data, hO.extent _ _ h.objects, hD.written _ _ h.data, hO.written _ _ h.objects]
  unfold serialize
  rw [hsize, hwire]

/-- **An operation that adds or reads** answers the same on related parcels and leaves them related, whether it answers or
fails. -/
theorem respects_perform (hO : Steady O) : ∀ op : Operation, op.resets = false → Respects (Both D O) (perform op)
  | .writeData bs, _ => (hD.writeData bs).map
  | .writeInt32 _, _ | .writeUInt32 _, _ | .writeInt64 _, _ | .writeUInt64 _, _ => (hD.writeData _).map
  | .writeString16 s, _ => (hD.writeString16 s).map
  | .writeInterfaceToken name, _ => (hD.writeInterfaceToken name).map
  | .writeFlattened bs, _ => (hD.writeFlattened bs).map
  | .writeObject bs, _ => (onObjects (hO.append _ bs)).map
  | .readData len, _ => (hD.readData len).map
  | .readInt32, _ => hD.readInt32.map
  | .readUInt32, _ => (hD.readData 4).map.map
  | .readInt64, _ => (hD.readData 8).map.map.map
  | .readUInt64, _ => (hD.readData 8).map.map
  | .readString16 room, _ => (hD.readString16 room).map
  | .readInterfaceToken room, _ => (hD.readInterfaceToken room).map
  | .readFlattened, _ => hD.readFlattened.map
  | .readObject len, _ => (onObjects (hO.take len)).map
  | .readStatus, _ => hD.readInt32.map.map
  | .rewind, _ => (Respects.modify fun _ _ h => ⟨hD.rewind _ _ h.data, hO.rewind _ _ h.objects⟩).map
  | .serialize staging, _ =>
    .look (fun _ _ h => by rw [hD.serialize_eq hO h staging]) fun _ => .bind (.ofExcept _) fun _ => .pure _

end Steady

namespace Lasting

variable {R : Area → Area → Prop} (hR : Lasting R)
include hR

theorem deserialize (received : Bytes) : Respects (Both R R) (deserialize received) := by
  intro p q h
  rcases deserialize_on received with ⟨e, hrun⟩ | ⟨data, objects, hdata, hobjects, hrun⟩
  · rw [hrun, hrun]
    exact ⟨rfl, h⟩
  · rw [hrun, hrun]
    exact ⟨rfl, hR.replace _ _ _ h.data hdata, hR.replace _ _ _ h.objects hobjects⟩

/-- **Every operation** answers the same on related parcels and leaves them related, whether it answers or fails. -/
theorem respects_perform (op : Operation) : Respects (Both R R) (perform op) := by
  cases op
  case clear => exact (Respects.modify fun _ _ h => ⟨hR.clear _ _ h.data, hR.clear _ _ h.objects⟩).map
  case deserialize received => exact (hR.deserialize received).map
  all_goals exact hR.toSteady.respects_perform hR.toSteady _ rfl

end Lasting
end Parcel
end HorizonIpc
