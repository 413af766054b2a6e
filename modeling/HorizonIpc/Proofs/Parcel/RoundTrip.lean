import HorizonIpc.Proofs.Parcel.Reach
/-!
# Proofs.Parcel.RoundTrip — what a parcel looks like when it is sent, and back

`flat` writes a parcel out as it is sent, without the encoder.  Every reachable parcel is staged as its flat form, in
every buffer with room for it, and read from there into every other parcel (`wire_round_trip`); so is every parcel that
was itself read from a message, wherever that message had its areas.
-/
namespace HorizonIpc
namespace Parcel

/-- A parcel as it is sent: the size and the place of each area, and what is written in them. -/
def flat (p : Parcel) : Bytes :=
  Bytes.ofNatLE 4 p.data.extent ++ Bytes.ofNatLE 4 16 ++ Bytes.ofNatLE 4 p.objects.extent ++
    Bytes.ofNatLE 4 (16 + p.data.extent) ++ p.data.written ++ p.objects.written

/-- A parcel with the contents of another, to be read from the start. -/
structure CopyOf (q p : Parcel) : Prop where
  data : q.data.written = p.data.written
  objects : q.objects.written = p.objects.written
  data_start : q.data.cursor = 0
  objects_start : q.objects.cursor = 0

variable {p : Parcel}

theorem Sound.bounded (h : p.Sound) : p.Bounded := ⟨h.data.extent_le, h.objects.extent_le⟩

/-- **The encoder writes the flat form**: no size and no place is too long for its word. -/
theorem Bounded.wire_eq_flat (h : p.Bounded) : p.wire = p.flat := by
  have hdata := h.data_le
  have hobjects := h.objects_le
  -- sixteen bytes and two areas are far less than a word can count
  have hword {n : Nat} (hn : n ≤ 16 + capacity) : Bytes.ofUInt32 (UInt32.ofNat n) = Bytes.ofNatLE 4 n := by
    unfold Bytes.ofUInt32
    rw [UInt32.toNat_ofNat_of_lt' (Nat.lt_of_le_of_lt hn (by decide))]
  unfold wire wireHeader WireHeader.encode flat
  rw [hword (by omega), hword (by decide), hword (by omega),
    hword (show WireHeader.width + p.data.extent ≤ _ from Nat.add_le_add_left hdata 16)]
  rfl

theorem Bounded.length_flat (h : p.Bounded) : p.flat.length = p.wireSize := by
  rw [← h.wire_eq_flat, h.length_wire]

/-- **A parcel that has room** is staged as its flat form, in front of what was there. -/
theorem Bounded.serialize_flat (h : p.Bounded) {staging : Bytes} (hroom : p.wireSize ≤ staging.length) :
    p.serialize.on staging = (.ok p.wireSize, p.flat ++ staging.drop p.wireSize) := by
  have hlen := h.length_flat
  have hfit : p.flat.take staging.length = p.flat := List.take_of_length_le (by omega)
  rw [serialize_on hroom, h.wire_eq_flat]
  unfold Bytes.overlay
  rw [List.take_zero, List.nil_append, Nat.sub_zero, Nat.zero_add, hfit, hlen]

/-- **Staging fails exactly where there is no room**, and then writes nothing. -/
theorem serialize_tooSmall_iff (staging : Bytes) :
    p.serialize.on staging = (.error .stagingTooSmall, staging) ↔ staging.length < p.wireSize := by
  rcases Nat.lt_or_ge staging.length p.wireSize with hshort | hroom
  · have hstop : p.wireSize > staging.length := hshort
    unfold serialize
    simp only [Attempt.on_bind, Attempt.on_get, hstop, if_true, Attempt.on_throw]
  · rw [serialize_on hroom]
    exact ⟨fun h => (nomatch (Prod.mk.inj h).1), fun h => absurd h (Nat.not_lt.2 hroom)⟩

/-- **The flat form is read into any parcel**, whatever stands behind it. -/
theorem Bounded.deserialize_flat (h : p.Bounded) (q : Parcel) {received : Bytes} (hflat : p.flat <+: received) :
    ∃ q', (deserialize received).on q = (.ok (), q') ∧ q'.CopyOf p := by
  obtain ⟨rest, rfl⟩ := hflat
  rw [← h.wire_eq_flat]
  exact ⟨_, h.deserialize_wire rest q,
    ⟨(h.written_replace_written q.data).1, (h.written_replace_written q.objects).2, rfl, rfl⟩⟩

theorem bounded_of_deserialize {received : Bytes} {q q' : Parcel} (h : (deserialize received).on q = (.ok (), q')) :
    q'.Bounded := by
  rcases deserialize_on received with ⟨e, hrun⟩ | ⟨data, objects, hdata, hobjects, hrun⟩
  · exact nomatch (Prod.mk.inj (h.symm.trans (hrun q))).1
  · rw [(Prod.mk.inj (h.symm.trans (hrun q))).2]
    exact ⟨hdata, hobjects⟩

/-- **A parcel arrives as it was sent.**  A reachable parcel is refused by a buffer exactly when it does not fit, and else
is staged as its flat form and nothing else; every byte string that starts with that form is read as its contents into
every parcel.  A parcel that was read from any byte string is staged and read again with the same contents. -/
theorem wire_round_trip :
    (∀ p, Reachable p →
      p.flat.length = 16 + p.data.extent + p.objects.extent ∧
      (∀ staging : Bytes,
        (p.serialize.on staging = (.error .stagingTooSmall, staging) ↔
          16 + p.data.extent + p.objects.extent > staging.length) ∧
        (16 + p.data.extent + p.objects.extent ≤ staging.length →
          p.serialize.on staging = (.ok (16 + p.data.extent + p.objects.extent),
            p.flat ++ staging.drop (16 + p.data.extent + p.objects.extent)))) ∧
      ∀ q received, p.flat <+: received → ∃ q', (deserialize received).on q = (.ok (), q') ∧ q'.CopyOf p) ∧
    ∀ received q q', (deserialize received).on q = (.ok (), q') →
      ∀ staging : Bytes, q'.wireSize ≤ staging.length →
        ∃ staged, q'.serialize.on staging = (.ok q'.wireSize, staged) ∧
          ∀ r received', staged.take q'.wireSize <+: received' →
            ∃ r', (deserialize received').on r = (.ok (), r') ∧ r'.CopyOf q' := by
  constructor
  · intro p hp
    have hb := hp.sound.bounded
    exact ⟨hb.length_flat, fun staging => ⟨serialize_tooSmall_iff staging, fun hroom => hb.serialize_flat hroom⟩,
      fun q received hflat => hb.deserialize_flat q hflat⟩
  · -- a parcel that was read need not be reachable, but its areas were filled within their bounds
    intro received q q' hread staging hroom
    have hb := bounded_of_deserialize hread
    refine ⟨_, hb.serialize_flat hroom, fun r received' hflat => hb.deserialize_flat r ?_⟩
    rwa [List.take_left' hb.length_flat] at hflat

/-- A number and an object are staged behind one another, and read from a message that has them the other way round. -/
theorem wire_round_trip_swapped :
    let p := ((perform (.writeObject [1, 2])).on ((perform (.writeInt32 5)).on .empty).2).2
    let received : Bytes := [4, 0, 0, 0, 20, 0, 0, 0, 4, 0, 0, 0, 16, 0, 0, 0, 1, 2, 0, 0, 5, 0, 0, 0]
    let q := ((deserialize received).on p).2
    Reachable p ∧ p.serialize.on (Bytes.zeros 30) = (.ok 24, p.flat ++ Bytes.zeros 6) ∧
      p.serialize.on (Bytes.zeros 23) = (.error .stagingTooSmall, Bytes.zeros 23) ∧
      (∃ p', (deserialize (p.flat ++ [9])).on p = (.ok (), p') ∧ p'.CopyOf p) ∧
      (deserialize received).on p = (.ok (), q) ∧
      ∃ staged, q.serialize.on (Bytes.zeros 24) = (.ok q.wireSize, staged) ∧
        ∃ q', (deserialize staged).on p = (.ok (), q') ∧ q'.CopyOf q := by
  intro p received q
  have hp : Reachable p := .step (.step .fresh (.writeInt32 5)) (.writeObject [1, 2])
  have hq : (deserialize received).on p = (.ok (), q) := Attempt.on_eq_ok (by decide +kernel)
  obtain ⟨-, hstage, hread⟩ := wire_round_trip.1 p hp
  obtain ⟨staged, hstaged, hagain⟩ := wire_round_trip.2 received p q hq (Bytes.zeros 24) (by decide +kernel)
  exact ⟨hp, (hstage _).2 (by decide +kernel), (hstage _).1.2 (by decide +kernel), hread p _ (List.prefix_append _ _), hq,
    staged, hstaged, hagain p staged (List.take_prefix _ _)⟩

end Parcel
end HorizonIpc
