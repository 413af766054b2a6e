import HorizonIpc.Parcel.Wire
import HorizonIpc.Proofs.Bytes.Word
import HorizonIpc.Proofs.Parcel.Area
/-!
# Proofs.Parcel.Admission — which byte strings are parcels

A byte string starts with four words, the size and the offset of each area, and it is whoever sent it who chose them.
It is read as a parcel exactly if each of the two parts that they name is empty or lies in the bytes received and fits
an area, as numbers and not as words (`Admissible`); nothing says that the parts lie behind the words, or apart.  Both
parts are looked at before anything is replaced, so bytes that are refused change nothing (`admission`).
-/
namespace HorizonIpc
namespace Parcel

/-- The number in the word at position `i` of a byte string. -/
def headerWord (received : Bytes) (i : Nat) : Nat := Bytes.toNatLE (received.window (4 * i) 4)

/-- Whether a part of a size can be taken from an offset of the bytes received. -/
def Takable (received : Bytes) (offset size : Nat) : Prop :=
  size = 0 ∨ size ≤ capacity ∧ offset + size ≤ received.length

structure Admissible (received : Bytes) : Prop where
  header : 16 ≤ received.length
  data : Takable received (headerWord received 1) (headerWord received 0)
  objects : Takable received (headerWord received 3) (headerWord received 2)

instance (received : Bytes) (offset size : Nat) : Decidable (Takable received offset size) :=
  inferInstanceAs (Decidable (_ ∨ _))

theorem admissible_iff {received : Bytes} : Admissible received ↔ 16 ≤ received.length ∧
    Takable received (headerWord received 1) (headerWord received 0) ∧
    Takable received (headerWord received 3) (headerWord received 2) :=
  ⟨fun ⟨h, hd, ho⟩ => ⟨h, hd, ho⟩, fun ⟨h, hd, ho⟩ => ⟨h, hd, ho⟩⟩

instance (received : Bytes) : Decidable (Admissible received) := decidable_of_iff' _ admissible_iff

/-- A parcel that holds the two parts named by the words in front of a byte string, to be read from the start. -/
structure HoldsParts (received : Bytes) (p : Parcel) : Prop where
  data : p.data.written = received.window (headerWord received 1) (headerWord received 0)
  objects : p.objects.written = received.window (headerWord received 3) (headerWord received 2)
  data_start : p.data.cursor = 0
  objects_start : p.objects.cursor = 0

variable {received : Bytes}

theorem part_eq (received : Bytes) (offset size : UInt32) : part received offset size =
    if Takable received offset.toNat size.toNat then .ok (received.window offset.toNat size.toNat)
    else .error .replyOutOfBounds := by
  have hsize : size = 0 ↔ size.toNat = 0 := ⟨fun h => by rw [h]; rfl, fun h => UInt32.toNat.inj h⟩
  unfold part Takable
  by_cases hzero : size.toNat = 0
  · simp [hsize, hzero, Bytes.window]
  by_cases hcap : size.toNat ≤ capacity
  · by_cases hend : offset.toNat + size.toNat ≤ received.length
    · simp [hsize, hzero, hcap, hend, Nat.not_lt.2 hcap, Nat.not_lt.2 hend]
    · simp [hsize, hzero, hcap, hend]
  · simp [hsize, hzero, hcap]

theorem WireHeader.toNat_decode (received : Bytes) :
    (decode received).dataSize.toNat = headerWord received 0 ∧
      (decode received).dataOffset.toNat = headerWord received 1 ∧
      (decode received).objectsSize.toNat = headerWord received 2 ∧
      (decode received).objectsOffset.toNat = headerWord received 3 :=
  ⟨Bytes.toNat_toUInt32 _, Bytes.toNat_toUInt32 _, Bytes.toNat_toUInt32 _, Bytes.toNat_toUInt32 _⟩

theorem Takable.length_le {offset size : Nat} (h : Takable received offset size) :
    (received.window offset size).length ≤ capacity := by
  have hlen := Bytes.length_window_le received offset size
  rcases h with hzero | ⟨hcap, -⟩ <;> omega

/-- **Bytes that are admissible** replace what a parcel held by the parts that they name. -/
theorem deserialize_admissible (h : Admissible received) (p : Parcel) :
    (deserialize received).on p =
      (.ok (), ⟨p.data.replace (received.window (headerWord received 1) (headerWord received 0)),
        p.objects.replace (received.window (headerWord received 3) (headerWord received 2))⟩) := by
  have hlong : ¬ received.length < WireHeader.width := Nat.not_lt.2 h.header
  obtain ⟨hsize, hoffset, hsize', hoffset'⟩ := WireHeader.toNat_decode received
  unfold deserialize
  simp only [hlong, if_false, Attempt.on_bind, Attempt.on_ofExcept, Attempt.on_modify, part_eq, hsize, hoffset, hsize',
    hoffset', h.data, h.objects, if_true]

/-- **Bytes that are not admissible** are refused, and the parcel stays as it was. -/
theorem deserialize_not_admissible (h : ¬ Admissible received) (p : Parcel) :
    (deserialize received).on p = (.error .replyOutOfBounds, p) := by
  obtain ⟨hsize, hoffset, hsize', hoffset'⟩ := WireHeader.toNat_decode received
  unfold deserialize
  by_cases hshort : received.length < WireHeader.width
  · simp only [hshort, if_true, Attempt.on_bind, Attempt.on_throw]
  simp only [hshort, if_false, Attempt.on_bind, Attempt.on_ofExcept, part_eq, hsize, hoffset, hsize', hoffset']
  by_cases hdata : Takable received (headerWord received 1) (headerWord received 0)
  · -- the data can be taken, so it is the objects that cannot; nothing has been replaced by then
    have hobjects : ¬ Takable received (headerWord received 3) (headerWord received 2) :=
      fun hobjects => h ⟨Nat.le_of_not_lt hshort, hdata, hobjects⟩
    simp only [hdata, hobjects, if_true, if_false]
  · simp only [hdata, if_false]

/-- **What is read as a parcel.**  Bytes are read into a parcel exactly if they are admissible, and then it holds the
parts that they name and is read from the start; else they are refused as out of bounds, and the parcel is what it was,
with its contents, its read positions and what is unread. -/
theorem admission (p : Parcel) (received : Bytes) :
    ((∃ p', (deserialize received).on p = (.ok (), p')) ↔ Admissible received) ∧
      (∀ p', (deserialize received).on p = (.ok (), p') → HoldsParts received p') ∧
      ∀ e p', (deserialize received).on p = (.error e, p') → e = .replyOutOfBounds ∧ p' = p := by
  by_cases h : Admissible received
  · rw [deserialize_admissible h p]
    refine ⟨⟨fun _ => h, fun _ => ⟨_, rfl⟩⟩, ?_, ?_⟩
    · rintro p' ⟨⟩
      exact ⟨Area.written_replace h.data.length_le, Area.written_replace h.objects.length_le, rfl, rfl⟩
    · rintro e p' ⟨⟩
  · rw [deserialize_not_admissible h p]
    refine ⟨⟨?_, fun h' => absurd h' h⟩, ?_, ?_⟩
    · rintro ⟨p', ⟨⟩⟩
    · rintro p' ⟨⟩
    · rintro e p' ⟨⟩
      exact ⟨rfl, rfl⟩

/-- The parts may overlap each other and the words in front of them. -/
example : Admissible [12, 0, 0, 0, 2, 0, 0, 0, 16, 0, 0, 0, 0, 0, 0, 0] := by decide

/-- An end past what a word can count is out of bounds. -/
example : ¬ Admissible [0, 4, 0, 0, 0x10, 0xFC, 0xFF, 0xFF, 0, 0, 0, 0, 0, 0, 0, 0] := by decide

end Parcel
end HorizonIpc
