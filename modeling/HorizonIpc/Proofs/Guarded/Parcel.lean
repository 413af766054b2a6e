import HorizonIpc.Proofs.Guarded.Basic
import HorizonIpc.Proofs.Parcel.RoundTrip
/-!
# Proofs.Guarded.Parcel — parcels between their areas and the staging buffers

A parcel whose extents are no longer than its areas is staged without a fault (`serialize_eq`).  The other way it is
the sender who says where the areas are: the part that a header names is compared with what was received and with the
capacity of an area before anything is copied, so reading a parcel meets no fault whatever was received
(`deserialize_eq`).
-/
namespace HorizonIpc
namespace Guarded

open Parcel (Area WireHeader)

def serialize (p : Parcel) (staging : Bytes) : Option (Except Parcel.Error Nat × Bytes) := do
  let objectsStart ← sum WireHeader.width p.data.extent
  let total ← sum objectsStart p.objects.extent
  if total > staging.length then return (.error .stagingTooSmall, staging)
  let staging ← fill staging 0 WireHeader.width p.wireHeader.encode
  let staging ← fill staging WireHeader.width objectsStart (← slice p.data.cells 0 p.data.extent)
  let staging ← fill staging objectsStart total (← slice p.objects.cells 0 p.objects.extent)
  return (.ok total, staging)

def replace (a : Area) (bs : Bytes) : Option Area := do
  let _ ← fill a.cells 0 bs.length bs
  return a.replace bs

/-- Reads a parcel.  Finding a part takes no step that can be a fault, but copying it into its area does. -/
def deserialize (received : Bytes) (p : Parcel) : Option (Except Parcel.Error Unit × Parcel) := do
  if received.length < WireHeader.width then return (.error .replyOutOfBounds, p)
  let h := WireHeader.decode received
  match Parcel.part received h.dataOffset h.dataSize with
  | .error e => return (.error e, p)
  | .ok data =>
    match Parcel.part received h.objectsOffset h.objectsSize with
    | .error e => return (.error e, p)
    | .ok objects => return (.ok (), ⟨← replace p.data data, ← replace p.objects objects⟩)

theorem slice_written {a : Area} (h : a.extent ≤ Parcel.capacity) : slice a.cells 0 a.extent = some a.written :=
  slice_zero (by rw [a.cells_length]; exact h)

/-- **Staging a parcel meets no fault**, whether it fits the buffer or not. -/
theorem serialize_eq {p : Parcel} (h : p.Bounded) (staging : Bytes) :
    serialize p staging = some (p.serialize.on staging) := by
  have hlimit : WireHeader.width + 2 * Parcel.capacity < wordLimit := by decide
  have hd := h.data_le
  have ho := h.objects_le
  have hfirst : sum WireHeader.width p.data.extent = some (WireHeader.width + p.data.extent) := sum_eq (by omega)
  have htotal : sum (WireHeader.width + p.data.extent) p.objects.extent = some p.wireSize :=
    sum_eq (show WireHeader.width + p.data.extent + _ < _ by omega)
  have hheaderLen : p.wireHeader.encode.length = WireHeader.width := WireHeader.length_encode _
  have hdataLen := Parcel.Area.length_written hd
  have hobjectsLen := Parcel.Area.length_written ho
  unfold serialize
  simp only [hfirst, htotal, Option.bind_eq_bind, Option.bind_some]
  by_cases hroom : p.wireSize > staging.length
  · rw [if_pos hroom, (Parcel.serialize_tooSmall_iff _).2 hroom]
    rfl
  have hroom := Nat.le_of_not_lt hroom
  have hsize : p.wireSize = WireHeader.width + p.data.extent + p.objects.extent := rfl
  have hheader : fill staging 0 WireHeader.width p.wireHeader.encode = some _ := fill_eq (by omega) (by omega)
  have hdata : fill (staging.overlay 0 p.wireHeader.encode) WireHeader.width (WireHeader.width + p.data.extent)
      p.data.written = some _ := fill_eq (by rw [Bytes.length_overlay]; omega) (by rw [hdataLen])
  have hobjects : fill ((staging.overlay 0 p.wireHeader.encode).overlay WireHeader.width p.data.written)
      (WireHeader.width + p.data.extent) p.wireSize p.objects.written = some _ :=
    fill_eq (by rw [Bytes.length_overlay, Bytes.length_overlay]; omega) (by rw [hobjectsLen]; rfl)
  -- three copies, each right behind the one before it, are one
  have hwire : ((staging.overlay 0 p.wireHeader.encode).overlay WireHeader.width p.data.written).overlay
      (WireHeader.width + p.data.extent) p.objects.written = staging.overlay 0 p.wire := by
    have hall : 0 + (p.wireHeader.encode ++ p.data.written ++ p.objects.written).length ≤ staging.length := by
      simp only [List.length_append, hheaderLen, hdataLen, hobjectsLen]
      omega
    have hpair : (staging.overlay 0 p.wireHeader.encode).overlay WireHeader.width p.data.written =
        staging.overlay 0 (p.wireHeader.encode ++ p.data.written) := by
      rw [← Bytes.overlay_overlay_behind (by rw [List.length_append] at hall; omega), hheaderLen, Nat.zero_add]
    have hend : (p.wireHeader.encode ++ p.data.written).length = WireHeader.width + p.data.extent := by
      rw [List.length_append, hheaderLen, hdataLen]
    rw [hpair, Parcel.wire, ← Bytes.overlay_overlay_behind hall, hend, Nat.zero_add]
  simp only [if_neg (Nat.not_lt.2 hroom), hheader, slice_written hd, hdata, slice_written ho, hobjects, hwire,
    Option.bind_some, Parcel.serialize_on hroom]
  rfl

/-- What becomes of a parcel that is staged: it is too large, or it takes up the front of the buffer. -/
theorem serialize_cases (p : Parcel) (staging : Bytes) :
    p.serialize.on staging = (.error .stagingTooSmall, staging) ∨
      ∃ staged, p.serialize.on staging = (.ok p.wireSize, staged) ∧ staged.length = staging.length ∧
        p.wireSize ≤ staging.length := by
  rcases Nat.lt_or_ge staging.length p.wireSize with hlarge | hroom
  · exact .inl ((Parcel.serialize_tooSmall_iff _).2 hlarge)
  · exact .inr ⟨_, Parcel.serialize_on hroom, Bytes.length_overlay _ _ _, hroom⟩

/-- **Copying into an area meets no fault**, if what is copied is no longer than the area. -/
theorem replace_eq (a : Area) {bs : Bytes} (h : bs.length ≤ Parcel.capacity) : replace a bs = some (a.replace bs) := by
  have hfill : fill a.cells 0 bs.length bs = some _ := fill_eq (by rw [a.cells_length]; exact h) (Nat.zero_add _)
  unfold replace
  rw [hfill]
  rfl

/-- **Reading a parcel meets no fault**, whatever was received. -/
theorem deserialize_eq (received : Bytes) (p : Parcel) :
    deserialize received p = some ((Parcel.deserialize received).on p) := by
  unfold deserialize Parcel.deserialize
  by_cases hshort : received.length < WireHeader.width
  · simp only [hshort, if_true, Attempt.on_bind, Attempt.on_throw]
    rfl
  simp only [hshort, if_false, Attempt.on_bind, Attempt.on_ofExcept, Attempt.on_modify]
  cases hdata : Parcel.part received (WireHeader.decode received).dataOffset (WireHeader.decode received).dataSize with
  | error e => rfl
  | ok data =>
    cases hobjects : Parcel.part received (WireHeader.decode received).objectsOffset
        (WireHeader.decode received).objectsSize with
    | error e => rfl
    | ok objects =>
      have hd := replace_eq p.data (Parcel.length_part_le hdata)
      have ho := replace_eq p.objects (Parcel.length_part_le hobjects)
      simp only [hd, ho, Option.bind_eq_bind, Option.bind_some]
      rfl

end Guarded
end HorizonIpc
