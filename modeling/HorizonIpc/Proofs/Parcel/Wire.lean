import HorizonIpc.Proofs.Parcel.Admission
/-!
# Proofs.Parcel.Wire — a parcel arrives as it was sent

A parcel that fits a staging buffer is written to its start, and read from there it replaces the contents of any other
parcel, whatever stands behind it (`deserialize_wire`).
-/
namespace HorizonIpc
namespace Parcel

theorem WireHeader.length_encode (h : WireHeader) : h.encode.length = width := rfl

theorem WireHeader.decode_encode (h : WireHeader) (rest : Bytes) : decode (h.encode ++ rest) = h := by
  obtain ⟨h0, h4, h8, h12⟩ := Bytes.fourWords h.dataSize h.dataOffset h.objectsSize h.objectsOffset rest
  unfold decode encode
  rw [h0, h4, h8, h12]

variable {p : Parcel}

/-- A parcel whose extents are no longer than its areas. -/
structure Bounded (p : Parcel) : Prop where
  data_le : p.data.extent ≤ capacity
  objects_le : p.objects.extent ≤ capacity

theorem bounded_of_wireSize_le (h : p.wireSize ≤ stagingSize) : p.Bounded := by
  unfold wireSize WireHeader.width stagingSize at h
  exact ⟨by unfold capacity; omega, by unfold capacity; omega⟩

theorem Bounded.length_wire (h : p.Bounded) : p.wire.length = p.wireSize := by
  unfold wire
  rw [List.length_append, List.length_append, Area.length_written h.data_le, Area.length_written h.objects_le]
  rfl

theorem length_wire (h : p.wireSize ≤ stagingSize) : p.wire.length = p.wireSize :=
  (bounded_of_wireSize_le h).length_wire

/-- **Serializing** writes the parcel to the start of a buffer that has room for it. -/
theorem serialize_on {staging : Bytes} (h : p.wireSize ≤ staging.length) :
    p.serialize.on staging = (.ok p.wireSize, staging.overlay 0 p.wire) := by
  have hroom : ¬ p.wireSize > staging.length := by omega
  unfold serialize
  simp [hroom, Except.map]

/-- Serialized into a buffer of zeros, the parcel is what stands in its part of the buffer. -/
theorem serialize_zeros (h : p.wireSize ≤ stagingSize) :
    ∃ staged, p.serialize.on (List.replicate stagingSize 0) = (.ok p.wireSize, staged) ∧
      staged.take p.wireSize = p.wire := by
  have hroom : p.wireSize ≤ (List.replicate stagingSize (0 : UInt8)).length := by rw [List.length_replicate]; exact h
  have hfit : 0 + p.wire.length ≤ (List.replicate stagingSize (0 : UInt8)).length := by
    rw [length_wire h, Nat.zero_add]
    exact hroom
  have hwindow := Bytes.window_overlay hfit
  unfold Bytes.window at hwindow
  rw [List.drop_zero, length_wire h] at hwindow
  exact ⟨_, serialize_on hroom, hwindow⟩

/-- What a parcel has written fits the areas of another. -/
theorem Bounded.written_replace_written (h : p.Bounded) (a : Area) :
    (a.replace p.data.written).written = p.data.written ∧
      (a.replace p.objects.written).written = p.objects.written := by
  have hdata := Area.length_written h.data_le
  have hobjects := Area.length_written h.objects_le
  exact ⟨Area.written_replace (hdata ▸ h.data_le), Area.written_replace (hobjects ▸ h.objects_le)⟩

theorem written_replace_written (h : p.wireSize ≤ stagingSize) (a : Area) :
    (a.replace p.data.written).written = p.data.written ∧
      (a.replace p.objects.written).written = p.objects.written :=
  (bounded_of_wireSize_le h).written_replace_written a

/-- A part that lies in what was received is cut out. -/
theorem part_of_window {received bs : Bytes} {offset size : Nat} (hc : size ≤ capacity) (ho : offset < 2 ^ 32)
    (hr : offset + size ≤ received.length) (hw : received.window offset size = bs) :
    part received (UInt32.ofNat offset) (UInt32.ofNat size) = .ok bs := by
  unfold capacity at hc
  have hsize : (UInt32.ofNat size).toNat = size := UInt32.toNat_ofNat_of_lt' (show size < 2 ^ 32 by omega)
  have hoffset : (UInt32.ofNat offset).toNat = offset := UInt32.toNat_ofNat_of_lt' ho
  have htake : Takable received offset size := .inr ⟨hc, hr⟩
  rw [part_eq, hsize, hoffset, if_pos htake, hw]

/-- **A parcel that was sent replaces any other**, whatever stands behind it, and is read from the start. -/
theorem Bounded.deserialize_wire (h : p.Bounded) (rest : Bytes) (q : Parcel) :
    (deserialize (p.wire ++ rest)).on q =
      (.ok (), ⟨q.data.replace p.data.written, q.objects.replace p.objects.written⟩) := by
  have hdata_le := h.data_le
  have hobjects_le := h.objects_le
  have hdata := Area.length_written hdata_le
  have hobjects := Area.length_written hobjects_le
  have hcut : p.wire ++ rest = p.wireHeader.encode ++ (p.data.written ++ (p.objects.written ++ rest)) := by
    unfold wire
    simp only [List.append_assoc]
  have hlen : (p.wire ++ rest).length = p.wireSize + rest.length := by rw [List.length_append, h.length_wire]
  have hheader : WireHeader.decode (p.wire ++ rest) = p.wireHeader := by rw [hcut, WireHeader.decode_encode]
  have hsize : p.wireSize = WireHeader.width + p.data.extent + p.objects.extent := rfl
  have hwidth : WireHeader.width + capacity < 2 ^ 32 := by decide
  have hfirst : part (p.wire ++ rest) p.wireHeader.dataOffset p.wireHeader.dataSize = .ok p.data.written := by
    refine part_of_window hdata_le (by decide) (by omega)
      (Bytes.window_middle (c := p.objects.written ++ rest) ?_ (WireHeader.length_encode p.wireHeader).symm hdata.symm)
    rw [hcut, List.append_assoc]
  have hsecond : part (p.wire ++ rest) p.wireHeader.objectsOffset p.wireHeader.objectsSize = .ok p.objects.written := by
    refine part_of_window hobjects_le (by omega) (by omega)
      (Bytes.window_middle (a := p.wireHeader.encode ++ p.data.written) (c := rest) ?_ ?_ hobjects.symm)
    · rw [hcut]
      simp only [List.append_assoc]
    · rw [List.length_append, WireHeader.length_encode, hdata]
  have hlong : ¬ (p.wire ++ rest).length < WireHeader.width := by omega
  unfold deserialize
  simp only [hlong, if_false, Attempt.on_bind, Attempt.on_ofExcept, Attempt.on_modify, hheader, hfirst,
    hsecond]

theorem deserialize_wire (h : p.wireSize ≤ stagingSize) (rest : Bytes) (q : Parcel) :
    (deserialize (p.wire ++ rest)).on q =
      (.ok (), ⟨q.data.replace p.data.written, q.objects.replace p.objects.written⟩) :=
  (bounded_of_wireSize_le h).deserialize_wire rest q

/-- A part of the bytes received is no longer than an area. -/
theorem length_part_le {received bs : Bytes} {offset size : UInt32} (h : part received offset size = .ok bs) :
    bs.length ≤ capacity := by
  rw [part_eq] at h
  split at h
  · rename_i htake
    cases h
    exact htake.length_le
  · cases h

/-- **Bytes received** are refused and change nothing, or hold two parts that fit the areas and replace them, whatever
the parcel. -/
theorem deserialize_on (received : Bytes) :
    (∃ e, ∀ p, (deserialize received).on p = (.error e, p)) ∨
      ∃ data objects, data.length ≤ capacity ∧ objects.length ≤ capacity ∧
        ∀ p : Parcel, (deserialize received).on p = (.ok (), ⟨p.data.replace data, p.objects.replace objects⟩) := by
  by_cases h : Admissible received
  · exact .inr ⟨_, _, h.data.length_le, h.objects.length_le, deserialize_admissible h⟩
  · exact .inl ⟨_, deserialize_not_admissible h⟩

end Parcel
end HorizonIpc
