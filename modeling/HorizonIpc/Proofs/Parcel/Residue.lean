import HorizonIpc.Proofs.Parcel.Related
/-!
# Proofs.Parcel.Residue — what earlier contents left behind is never seen

The cells behind the extent of an area keep what was there before.  Two parcels are alike if they show the same
contents and are read from the same places, whatever those cells hold; then no run of operations tells them apart
(`unseen`).  So after it was cleared, or read from a message, a parcel behaves like one that never held anything else.
-/
namespace HorizonIpc
namespace Parcel

open Attempt (Respects)

namespace Area

/-- Two areas with the same contents, to be read from the same place. -/
structure Alike (a b : Area) : Prop where
  written : a.written = b.written
  cursor : a.cursor = b.cursor

/-- Areas that are alike, with the bound that makes their contents as long as their extent. -/
structure Twin (a b : Area) : Prop where
  alike : a.Alike b
  extent : a.extent = b.extent
  extent_le : a.extent ≤ capacity

variable {a b : Area}

theorem Alike.twin (h : a.Alike b) (ha : a.extent ≤ capacity) (hb : b.extent ≤ capacity) : a.Twin b where
  alike := h
  extent := by rw [← length_written ha, h.written, length_written hb]
  extent_le := ha

theorem twin_clear (a b : Area) : a.clear.Twin b.clear := ⟨⟨rfl, rfl⟩, rfl, Nat.zero_le _⟩

theorem twin_replace (a b : Area) {bs : Bytes} (h : bs.length ≤ capacity) : (a.replace bs).Twin (b.replace bs) where
  alike := ⟨by rw [written_replace h, written_replace h], rfl⟩
  extent := rfl
  extent_le := h

theorem Twin.extend (h : a.Twin b) {image : Bytes} (hfit : a.extent + image.length ≤ capacity) :
    (a.extend image).Twin (b.extend image) where
  alike := ⟨by rw [written_extend hfit, written_extend (h.extent ▸ hfit), h.alike.written], h.alike.cursor⟩
  extent := congrArg (· + image.length) h.extent
  extent_le := hfit

/-- **An append** puts its own zeros into the padding, whatever the cells held. -/
theorem respects_append (full : Error) (bs : Bytes) : Respects Twin (append full bs) := by
  intro a b h
  have hfree : a.free = b.free := congrArg (capacity - ·) h.extent
  rcases Nat.lt_or_ge a.free (pad bs).length with hfull | hroom
  · rw [append_full full hfull, append_full full (hfree ▸ hfull)]
    exact ⟨rfl, h⟩
  · have hextent := h.extent_le
    have hfit : a.extent + (pad bs).length ≤ capacity := by
      unfold free at hroom
      omega
    rw [append_on full hfit, append_on full (h.extent ▸ hfit)]
    exact ⟨rfl, h.extend hfit⟩

/-- **A take** ends at the extent. -/
theorem respects_take (len : Nat) : Respects Twin (take len) := by
  intro a b h
  rcases Nat.lt_or_ge a.extent (a.cursor + padded len) with hbeyond | hinside
  · rw [take_beyond hbeyond, take_beyond (h.extent ▸ h.alike.cursor ▸ hbeyond)]
    exact ⟨rfl, h⟩
  · rw [take_inside hinside, take_inside (h.extent ▸ h.alike.cursor ▸ hinside), h.alike.written, h.alike.cursor]
    exact ⟨rfl, ⟨h.alike.written, congrArg (· + padded len) h.alike.cursor⟩, h.extent, h.extent_le⟩

end Area

theorem lasting_twin : Lasting Area.Twin where
  append := Area.respects_append
  take := Area.respects_take
  rewind _ _ h := ⟨⟨h.alike.written, rfl⟩, h.extent, h.extent_le⟩
  clear a b _ := Area.twin_clear a b
  replace a b _ _ hbs := Area.twin_replace a b hbs
  extent _ _ h := h.extent
  written _ _ h := h.alike.written

/-- Two parcels that show the same contents and are read from the same places. -/
structure Alike (p q : Parcel) : Prop where
  data : p.data.Alike q.data
  objects : p.objects.Alike q.objects

/-- The answers of operations one after another, those that fail among them, and the parcel that they leave. -/
def run : List Operation → Parcel → List (Except Error Answer) × Parcel
  | [], p => ([], p)
  | op :: ops, p =>
    (((perform op).on p).1 :: (run ops ((perform op).on p).2).1, (run ops ((perform op).on p).2).2)

/-- Two parcels that no run tells apart: it has the same answers for both, and leaves them alike. -/
def Indistinguishable (p q : Parcel) : Prop := ∀ ops, (run ops p).1 = (run ops q).1 ∧ (run ops p).2.Alike (run ops q).2

theorem indistinguishable_of_twin {p q : Parcel} (h : Both Area.Twin Area.Twin p q) : Indistinguishable p q := by
  intro ops
  induction ops generalizing p q with
  | nil => exact ⟨rfl, h.data.alike, h.objects.alike⟩
  | cons op ops ih =>
    obtain ⟨hanswer, hnext⟩ := lasting_twin.respects_perform op p q h
    obtain ⟨hanswers, hlast⟩ := ih hnext
    exact ⟨congrArg₂ List.cons hanswer hanswers, hlast⟩

/-- **Earlier contents are never seen.**  No run tells two parcels apart that are alike and bounded, as every reachable
parcel is.  A parcel that was cleared is not told apart from the fresh one, whatever it held; nor is a parcel that was read
from a message told apart from the one that the fresh parcel becomes when it is read from that message. -/
theorem unseen :
    (∀ p q : Parcel, p.Bounded → q.Bounded → p.Alike q → Indistinguishable p q) ∧
      (∀ p : Parcel, Indistinguishable p.clear .empty) ∧
      ∀ (p p' : Parcel) (received : Bytes), (deserialize received).on p = (.ok (), p') →
        ∃ q', (deserialize received).on .empty = (.ok (), q') ∧ Indistinguishable p' q' := by
  refine ⟨fun p q hp hq h => ?_, fun p => ?_, fun p p' received hread => ?_⟩
  · exact indistinguishable_of_twin
      ⟨h.data.twin hp.data_le hq.data_le, h.objects.twin hp.objects_le hq.objects_le⟩
  · exact indistinguishable_of_twin ⟨Area.twin_clear p.data .empty, Area.twin_clear p.objects .empty⟩
  · rcases deserialize_on received with ⟨e, hrun⟩ | ⟨data, objects, hdata, hobjects, hrun⟩
    · rw [hrun] at hread
      cases hread
    · rw [hrun] at hread
      cases hread
      refine ⟨_, hrun .empty, indistinguishable_of_twin ?_⟩
      exact ⟨Area.twin_replace p.data _ hdata, Area.twin_replace p.objects _ hobjects⟩

/-- Five bytes are cleared away and one is written in their place: the cells still hold the others, but the parcel is
staged as one that never held them. -/
theorem unseen_cleared :
    let secret := ((perform (.writeData [1, 2, 3, 4, 5])).on .empty).2
    let p := ((perform (.writeData [6])).on secret.clear).2
    let q := ((perform (.writeData [6])).on .empty).2
    p.data.cells ≠ q.data.cells ∧ p.Bounded ∧ q.Bounded ∧ p.Alike q ∧ Indistinguishable p q ∧
      (run [.serialize (Bytes.zeros 20)] p).1 = (run [.serialize (Bytes.zeros 20)] q).1 := by
  intro secret p q
  have hp : p.Bounded := ⟨by decide +kernel, by decide +kernel⟩
  have hq : q.Bounded := ⟨by decide +kernel, by decide +kernel⟩
  have hsame : p.Alike q := ⟨⟨by decide +kernel, by decide +kernel⟩, ⟨by decide +kernel, by decide +kernel⟩⟩
  have hall := unseen.1 p q hp hq hsame
  exact ⟨by decide +kernel, hp, hq, hsame, hall, (hall _).1⟩

end Parcel
end HorizonIpc
