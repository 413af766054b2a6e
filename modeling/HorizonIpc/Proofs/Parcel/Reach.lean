import HorizonIpc.Proofs.Parcel.Related
/-!
# Proofs.Parcel.Reach — what every operation keeps

Whatever was done to a parcel, in either area the cursor is at most the extent and the extent at most the capacity
(`Reachable.sound`), and the cursor is a multiple of four (`Reachable.cursor_mod`).  An operation that fails has still
left a state, so `Attempt.Keeps` speaks about both ends of an attempt.
-/
namespace HorizonIpc

namespace Attempt

variable {σ ε α : Type} {P : σ → Prop} {x : Attempt σ ε α}

/-- An attempt after which `P` holds if it held before, whether it answers or fails. -/
def Keeps (P : σ → Prop) (x : Attempt σ ε α) : Prop := ∀ s, P s → P (x.on s).2

/-- **An invariant** is a relation of a state to itself. -/
theorem Keeps.respects (hx : Keeps P x) : Respects (fun s t => s = t ∧ P s) x := by
  rintro s t ⟨rfl, hs⟩
  exact ⟨rfl, rfl, hx s hs⟩

end Attempt

namespace Parcel

open Attempt (Keeps)

namespace Area

theorem Sound.rewind {a : Area} (h : a.Sound) : a.rewind.Sound := ⟨Nat.zero_le _, h.extent_le⟩

theorem sound_clear (a : Area) : a.clear.Sound := ⟨Nat.le_refl _, Nat.zero_le _⟩

theorem sound_replace (a : Area) {bs : Bytes} (h : bs.length ≤ capacity) : (a.replace bs).Sound := ⟨Nat.zero_le _, h⟩

theorem keeps_append (full : Error) (bs : Bytes) : Keeps Sound (append full bs) := by
  intro a ha
  rcases Nat.lt_or_ge a.free (pad bs).length with hfull | hroom
  · rw [append_full full hfull]
    exact ha
  · have hextent := ha.extent_le
    have hfit : a.extent + (pad bs).length ≤ capacity := by
      unfold free at hroom
      omega
    rw [append_on full hfit]
    exact ha.extend hfit

theorem keeps_take (len : Nat) : Keeps Sound (take len) := by
  intro a ha
  rcases Nat.lt_or_ge a.extent (a.cursor + padded len) with hbeyond | hinside
  · rw [take_beyond hbeyond]
    exact ha
  · rw [take_inside hinside]
    exact ha.skip hinside

/-- **A read leaves its cursor where a value starts.** -/
theorem keeps_take_cursor (len : Nat) : Keeps (fun a => a.cursor % 4 = 0) (take len) := by
  intro a ha
  have hpadded := padded_mod len
  by_cases hbeyond : a.extent < a.cursor + padded len
  · rw [take_beyond hbeyond]
    exact ha
  · rw [take_inside (Nat.le_of_not_lt hbeyond)]
    show (a.cursor + padded len) % 4 = 0
    omega

theorem keeps_append_cursor (full : Error) (bs : Bytes) : Keeps (fun a => a.cursor % 4 = 0) (append full bs) := by
  intro a ha
  unfold append
  by_cases hfull : padded bs.length > a.free
  · simpa [hfull] using ha
  · simpa [hfull] using ha

end Area

/-- **An invariant of the operations that add and read** is a steady relation of an area to itself. -/
theorem steady_invariant {P : Area → Prop} (append : ∀ full bs, Keeps P (Area.append full bs))
    (take : ∀ len, Keeps P (Area.take len)) (rewind : ∀ a, P a → P a.rewind) : Steady fun a b => a = b ∧ P a where
  append full bs := (append full bs).respects
  take len := (take len).respects
  rewind := by
    rintro a b ⟨rfl, ha⟩
    exact ⟨rfl, rewind a ha⟩
  extent := by
    rintro a b ⟨rfl, -⟩
    rfl
  written := by
    rintro a b ⟨rfl, -⟩
    rfl

/-- **An invariant of the operations on one area** is one of every operation on a parcel. -/
theorem lasting_invariant {P : Area → Prop} (append : ∀ full bs, Keeps P (Area.append full bs))
    (take : ∀ len, Keeps P (Area.take len)) (rewind : ∀ a, P a → P a.rewind) (clear : ∀ a, P a → P a.clear)
    (replace : ∀ a bs, P a → bs.length ≤ capacity → P (a.replace bs)) : Lasting fun a b => a = b ∧ P a where
  toSteady := steady_invariant append take rewind
  clear := by
    rintro a b ⟨rfl, ha⟩
    exact ⟨rfl, clear a ha⟩
  replace := by
    rintro a b bs ⟨rfl, ha⟩ hbs
    exact ⟨rfl, replace a bs ha hbs⟩

theorem lasting_sound : Lasting fun a b => a = b ∧ a.Sound :=
  lasting_invariant Area.keeps_append Area.keeps_take (fun _ ha => ha.rewind) (fun a _ => a.sound_clear)
    fun a _ _ hbs => a.sound_replace hbs

theorem lasting_aligned : Lasting fun a b => a = b ∧ a.cursor % 4 = 0 :=
  lasting_invariant Area.keeps_append_cursor Area.keeps_take_cursor (fun _ _ => rfl) (fun _ _ => rfl) fun _ _ _ _ => rfl

structure Sound (p : Parcel) : Prop where
  data : p.data.Sound
  objects : p.objects.Sound

theorem sound_empty : empty.Sound := ⟨Area.sound_empty, Area.sound_empty⟩

/-- **Every operation keeps the areas sound**, whether it answers or fails. -/
theorem keeps_perform (op : Operation) : Keeps Sound (perform op) := by
  intro p hp
  obtain ⟨-, hdata, hobjects⟩ := lasting_sound.respects_perform op p p ⟨⟨rfl, hp.data⟩, ⟨rfl, hp.objects⟩⟩
  exact ⟨hdata.2, hobjects.2⟩

/-- What operations make of the fresh parcel, those that failed among them. -/
inductive Reachable : Parcel → Prop
  | fresh : Reachable .empty
  | step {p : Parcel} (before : Reachable p) (op : Operation) : Reachable ((perform op).on p).2

/-- **An invariant that the fresh area has** is one of the areas of a reachable parcel. -/
theorem Reachable.invariant {P : Area → Prop} (hP : Lasting fun a b => a = b ∧ P a) (hempty : P .empty) {p : Parcel}
    (hp : Reachable p) : P p.data ∧ P p.objects := by
  induction hp with
  | fresh => exact ⟨hempty, hempty⟩
  | @step p _ op ih =>
    obtain ⟨-, hdata, hobjects⟩ := hP.respects_perform op p p ⟨⟨rfl, ih.1⟩, ⟨rfl, ih.2⟩⟩
    exact ⟨hdata.2, hobjects.2⟩

/-- **The areas of a reachable parcel are sound.** -/
theorem Reachable.sound {p : Parcel} (hp : Reachable p) : p.Sound :=
  have hboth := hp.invariant lasting_sound Area.sound_empty
  ⟨hboth.1, hboth.2⟩

/-- **The cursors of a reachable parcel are where values start.** -/
theorem Reachable.cursor_mod {p : Parcel} (hp : Reachable p) : p.data.cursor % 4 = 0 ∧ p.objects.cursor % 4 = 0 :=
  hp.invariant lasting_aligned rfl

end Parcel
end HorizonIpc
