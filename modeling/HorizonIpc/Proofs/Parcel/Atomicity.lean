import HorizonIpc.Proofs.Parcel.Reach
import HorizonIpc.Proofs.Parcel.Transfer
/-!
# Proofs.Parcel.Atomicity — a write is whole or refused, and a failure changes nothing

A write of a reachable parcel extends one area by its image if the area has room for all of it, and is refused otherwise;
and no operation that fails has changed anything (`whole_or_refused`).  The writers of more than one value check for the
room of all before the first, and the readers of more than one put back what they took when they fail later.
-/
namespace HorizonIpc
namespace Parcel

open Attempt (Restores restores_atomically)

/-! ## Writes -/

namespace Operation

/-- What a write adds to which area; no other operation adds anything. -/
def addition : Operation → Option (Half × Bytes)
  | .writeData bs => some (.data, pad bs)
  | .writeInt32 v => some (.data, Bytes.ofUInt32 v.toUInt32)
  | .writeUInt32 v => some (.data, Bytes.ofUInt32 v)
  | .writeInt64 v => some (.data, Bytes.ofUInt64 v.toUInt64)
  | .writeUInt64 v => some (.data, Bytes.ofUInt64 v)
  | .writeString16 s => some (.data, textImage s)
  | .writeInterfaceToken name => some (.data, tokenImage name)
  | .writeFlattened bs => some (.data, flattenedImage bs)
  | .writeObject bs => some (.objects, pad bs)
  | _ => none

/-- How many bytes a write takes up. -/
def size : Operation → Nat
  | .writeData bs | .writeObject bs => padded bs.length
  | .writeInt32 _ | .writeUInt32 _ => 4
  | .writeInt64 _ | .writeUInt64 _ => 8
  | .writeString16 s => 4 + padded (2 * ((Text.utf8 s).length + 1))
  | .writeInterfaceToken name => 8 + padded (2 * ((Text.utf8 name).length + 1))
  | .writeFlattened bs => 8 + padded bs.length
  | _ => 0

end Operation

variable {p : Parcel} {op : Operation} {h : Half} {image : Bytes}

theorem length_addition (hop : op.addition = some (h, image)) : image.length = op.size := by
  cases op <;> cases hop
  case writeData bs => exact length_pad bs
  case writeInt32 v => exact Bytes.length_ofUInt32 _
  case writeUInt32 v => exact Bytes.length_ofUInt32 _
  case writeInt64 v => exact Bytes.length_ofUInt64 _
  case writeUInt64 v => exact Bytes.length_ofUInt64 _
  case writeString16 s => exact length_textImage s
  case writeInterfaceToken name => exact length_tokenImage name
  case writeFlattened bs => exact length_flattenedImage bs
  case writeObject bs => exact length_pad bs

/-- **Every write is whole**: it is the write of its addition, and has no other answer than that it is done. -/
theorem perform_of_addition (hop : op.addition = some (h, image)) :
    ∃ x, perform op = (fun _ => Answer.done) <$> x ∧ Whole h x image := by
  cases op <;> cases hop
  case writeData bs => exact ⟨_, rfl, whole_data bs⟩
  case writeInt32 v => exact ⟨_, rfl, whole_int32 v⟩
  case writeUInt32 v => exact ⟨_, rfl, whole_uint32 v⟩
  case writeInt64 v => exact ⟨_, rfl, whole_int64 v⟩
  case writeUInt64 v => exact ⟨_, rfl, whole_uint64 v⟩
  case writeString16 s => exact ⟨_, rfl, whole_string16 s⟩
  case writeInterfaceToken name => exact ⟨_, rfl, whole_interfaceToken name⟩
  case writeFlattened bs => exact ⟨_, rfl, whole_flattened bs⟩
  case writeObject bs => exact ⟨_, rfl, whole_object bs⟩

/-- What a write that was not refused has made of a parcel: its image stands behind the bytes of one area, which are
what they were, and neither read position nor anything of the other area has changed. -/
structure Appended (h : Half) (image : Bytes) (p p' : Parcel) : Prop where
  written : (p'.half h).written = (p.half h).written ++ image
  extent : (p'.half h).extent = (p.half h).extent + image.length
  cursor : (p'.half h).cursor = (p.half h).cursor
  other : ∀ h', h' ≠ h → p'.half h' = p.half h'

theorem appended_extend (hfit : (p.half h).extent + image.length ≤ capacity) :
    Appended h image p (p.put h ((p.half h).extend image)) where
  written := by
    rw [half_put]
    exact Area.written_extend hfit
  extent := by
    rw [half_put]
    rfl
  cursor := by
    rw [half_put]
    rfl
  other h' hne := half_put_of_ne p hne _

theorem perform_fits (hop : op.addition = some (h, image)) (hfit : (p.half h).extent + image.length ≤ capacity) :
    ∃ p', (perform op).on p = (.ok .done, p') ∧ Appended h image p p' := by
  obtain ⟨x, hperform, hwhole⟩ := perform_of_addition hop
  refine ⟨_, ?_, appended_extend hfit⟩
  rw [hperform, Attempt.on_map, hwhole.grows p hfit]
  rfl

theorem perform_full (hop : op.addition = some (h, image)) (hroom : (p.half h).free < image.length) :
    (perform op).on p = (.error h.full, p) := by
  obtain ⟨x, hperform, hwhole⟩ := perform_of_addition hop
  rw [hperform, Attempt.on_map, hwhole.refuses p hroom]
  rfl

/-! ## Failures -/

theorem restores_deserialize (received : Bytes) : Restores (deserialize received) := by
  intro p e p' hrun
  rcases deserialize_on received with ⟨e', hfail⟩ | ⟨data, objects, -, -, hdone⟩
  · rw [hfail] at hrun
    cases hrun
    rfl
  · rw [hdone] at hrun
    cases hrun

theorem restores_serialize (staging : Bytes) : Restores (perform (.serialize staging)) := by
  intro p e p' hrun
  unfold perform at hrun
  simp only [Attempt.on_bind, Attempt.on_get, Attempt.on_ofExcept] at hrun
  rcases hout : (p.serialize.on staging).1 with e' | used <;> rw [hout] at hrun <;> cases hrun
  rfl

/-- **An operation that is no write** leaves the parcel as it was if it fails. -/
theorem restores_perform : ∀ op : Operation, op.addition = none → Restores (perform op)
  | .readData len, _ => (restores_readData len).map
  | .readInt32, _ => restores_readInt32.map
  | .readUInt32, _ => (restores_readData 4).map.map
  | .readInt64, _ => (restores_readData 8).map.map.map
  | .readUInt64, _ => (restores_readData 8).map.map
  | .readString16 _, _ => (restores_atomically _).map
  | .readInterfaceToken room, _ => (restores_readInterfaceToken room).map
  | .readFlattened, _ => (restores_atomically _).map
  | .readObject len, _ => (restores_readObject len).map
  | .readStatus, _ => restores_readInt32.map.map
  | .rewind, _ => (Attempt.restores_modify _).map
  | .clear, _ => (Attempt.restores_modify _).map
  | .serialize staging, _ => restores_serialize staging
  | .deserialize received, _ => (restores_deserialize received).map

theorem Reachable.half_sound (hp : p.Reachable) (h : Half) : (p.half h).Sound := by
  cases h with
  | data => exact hp.sound.data
  | objects => exact hp.sound.objects

/-- **A write is whole or refused, and a failure changes nothing.**  In a reachable parcel a write is done if its area
has room for the padded bytes of all its values, and then it has added them and changed nothing else; otherwise it is
refused for want of room.  An operation of any kind that fails leaves the whole parcel as it was. -/
theorem whole_or_refused (hp : p.Reachable) :
    (∀ op h image, op.addition = some (h, image) →
      image.length = op.size ∧
        ((p.half h).extent + op.size ≤ capacity →
          ∃ p', (perform op).on p = (.ok .done, p') ∧ Appended h image p p') ∧
        (capacity < (p.half h).extent + op.size → (perform op).on p = (.error h.full, p))) ∧
      ∀ op e p', (perform op).on p = (.error e, p') → p' = p := by
  have hroom (h : Half) {n : Nat} (hover : capacity < (p.half h).extent + n) : (p.half h).free < n := by
    have hextent := (hp.half_sound h).extent_le
    unfold Area.free
    omega
  constructor
  · intro op h image hop
    have hsize := length_addition hop
    rw [← hsize]
    exact ⟨rfl, perform_fits hop, fun hover => perform_full hop (hroom h hover)⟩
  · intro op e p' hrun
    -- of the writes only one without room can have failed; the others put back what they took
    rcases hop : op.addition with _ | ⟨h, image⟩
    · exact restores_perform op hop p e p' hrun
    · rcases Nat.lt_or_ge capacity ((p.half h).extent + image.length) with hover | hfit
      · rw [perform_full hop (hroom h hover)] at hrun
        cases hrun
        rfl
      · obtain ⟨p'', hdone, -⟩ := perform_fits (p := p) hop hfit
        rw [hdone] at hrun
        cases hrun

/-- After a negative number was written a text fits behind it, an object that is longer than its area does not fit, and
the number is not the length of a text. -/
theorem whole_or_refused_negative :
    let p := ((perform (.writeInt32 (-5))).on .empty).2
    p.Reachable ∧
      (∃ p', (perform (.writeString16 "abc")).on p = (.ok .done, p') ∧ Appended .data (textImage "abc") p p') ∧
      (perform (.writeObject (Bytes.zeros 0x401))).on p = (.error .objectsFull, p) ∧
      (perform (.readString16 8)).on p = (.error .invalidLength, p) := by
  intro p
  have hp : p.Reachable := .step .fresh _
  obtain ⟨hwrites, hfails⟩ := whole_or_refused hp
  obtain ⟨-, hfits, -⟩ := hwrites (.writeString16 "abc") .data _ rfl
  obtain ⟨-, -, hfull⟩ := hwrites (.writeObject (Bytes.zeros 0x401)) .objects _ rfl
  refine ⟨hp, hfits (by decide +kernel), hfull (by decide +kernel), ?_⟩
  have hread : ((perform (.readString16 8)).on p).1 = .error .invalidLength := Attempt.eq_error (by decide +kernel)
  rcases hrun : (perform (.readString16 8)).on p with ⟨outcome, p'⟩
  rw [hrun] at hread
  cases hread
  rw [hfails _ _ _ hrun]

end Parcel
end HorizonIpc
