import HorizonIpc.Bits
import HorizonIpc.Bytes
import Mathlib.Algebra.Group.Nat.Defs
/-!
# Proofs.Bytes.Word — words at the start of a string

A word that is written in front of anything is read back from there, whatever its width, and so are several words in a
row (`toUInt32_drop_words`).  A record of packed fields that its width holds is read back as the same number
(`toNatLE_ofNatLE_pack`), and a string that is cut into fields is written again as it was (`ofNatLE_pack_cut`).
-/
namespace HorizonIpc

namespace Bits

theorem toNat_field (word low size : Nat) : (field word low size).toNat = word / 2 ^ low % 2 ^ size := by
  rw [field, BitVec.toNat_ofNat, Nat.shiftRight_eq_div_pow]

theorem toNat_toBool (b : BitVec 1) : (toBool b).toNat = b.toNat := by
  revert b
  decide

/-- The fields of the given widths, cut side by side out of a word from bit `low` on. -/
def cut (word : Nat) : Nat → List Nat → List Field
  | _, [] => []
  | low, w :: ws => ⟨w, field word low w⟩ :: cut word (low + w) ws

/-- **Fields cut side by side make up the bits that they were cut from.** -/
theorem pack_cut (word : Nat) : ∀ (low : Nat) (ws : List Nat),
    pack (cut word low ws) = (word >>> low) % 2 ^ width (cut word low ws)
  | low, [] => by simp [cut, pack, width, Nat.mod_one]
  | low, w :: ws => by
    have hshift : word >>> (low + w) = (word >>> low) / 2 ^ w := by
      rw [Nat.shiftRight_add, Nat.shiftRight_eq_div_pow _ w]
    rw [cut, pack, pack_cut word (low + w) ws, hshift, width, Nat.pow_add, Nat.mod_mul, Nat.shiftLeft_eq, field,
      BitVec.toNat_ofNat, Nat.mul_comm (2 ^ w)]

end Bits

namespace Bytes

theorem ofNatLE_inj {width a b : Nat} (ha : a < 2 ^ (8 * width)) (hb : b < 2 ^ (8 * width)) :
    ofNatLE width a = ofNatLE width b ↔ a = b := by
  constructor
  · intro h
    have hvalue := congrArg toNatLE h
    simpa [toNatLE_ofNatLE, Nat.one_shiftLeft, Nat.mod_eq_of_lt ha, Nat.mod_eq_of_lt hb] using hvalue
  · rintro rfl
    rfl

theorem take_ofNatLE_append_iff (width : Nat) {x y : Nat} (hx : x < 2 ^ (8 * width)) (hy : y < 2 ^ (8 * width))
    (a b : Bytes) (k : Nat) : (ofNatLE width x ++ a).take (width + k) = (ofNatLE width y ++ b).take (width + k) ↔
      x = y ∧ a.take k = b.take k := by
  have hcut : ∀ (v : Nat) (rest : Bytes), (ofNatLE width v ++ rest).take (width + k) = ofNatLE width v ++ rest.take k := by
    intro v rest
    have htake := @List.take_length_add_append _ (ofNatLE width v) rest k
    rwa [length_ofNatLE] at htake
  rw [hcut, hcut, List.append_eq_append_iff_of_size_eq_left (by simp), ofNatLE_inj hx hy]

@[simp] theorem length_ofUInt32 (w : UInt32) : (ofUInt32 w).length = 4 := length_ofNatLE _ _

@[simp] theorem length_ofUInt64 (w : UInt64) : (ofUInt64 w).length = 8 := length_ofNatLE _ _

theorem toNatLE_take_ofNatLE {width v : Nat} (h : v < 2 ^ (8 * width)) (rest : Bytes) :
    toNatLE ((ofNatLE width v ++ rest).take width) = v := by
  rw [List.take_left' (length_ofNatLE width v), toNatLE_ofNatLE, Nat.one_shiftLeft, Nat.mod_eq_of_lt h]

theorem toUInt32_ofUInt32 (w : UInt32) (rest : Bytes) : toUInt32 (ofUInt32 w ++ rest) = w := by
  unfold toUInt32 ofUInt32
  rw [toNatLE_take_ofNatLE w.toNat_lt, UInt32.ofNat_toNat]

theorem toUInt64_ofUInt64 (w : UInt64) (rest : Bytes) : toUInt64 (ofUInt64 w ++ rest) = w := by
  unfold toUInt64 ofUInt64
  rw [toNatLE_take_ofNatLE w.toNat_lt, UInt64.ofNat_toNat]

theorem toUInt32_ofUInt32_self (w : UInt32) : toUInt32 (ofUInt32 w) = w := by
  rw [← List.append_nil (ofUInt32 w), toUInt32_ofUInt32]

theorem toUInt64_ofUInt64_self (w : UInt64) : toUInt64 (ofUInt64 w) = w := by
  rw [← List.append_nil (ofUInt64 w), toUInt64_ofUInt64]

/-- **A string that begins with a word** holds all of its bytes, and the word is read there. -/
theorem toUInt64_of_prefix {w : UInt64} {bs : Bytes} (h : ofUInt64 w <+: bs) : 8 ≤ bs.length ∧ toUInt64 bs = w := by
  refine ⟨h.length_le, ?_⟩
  obtain ⟨rest, rfl⟩ := h
  exact toUInt64_ofUInt64 w rest

theorem toNat_toUInt32 (bs : Bytes) : (toUInt32 bs).toNat = toNatLE (bs.take 4) := by
  have hlt := toNatLE_lt (bs.take 4)
  have hlen := List.length_take_le 4 bs
  rw [Nat.one_shiftLeft] at hlt
  have hword : 2 ^ (8 * (bs.take 4).length) ≤ 2 ^ 32 := Nat.pow_le_pow_right (by decide) (by omega)
  exact UInt32.toNat_ofNat_of_lt' (Nat.lt_of_lt_of_le hlt hword)

theorem ofUInt32_toUInt32 {bs : Bytes} (h : bs.length = 4) : ofUInt32 (toUInt32 bs) = bs := by
  have hlt := toNatLE_lt bs
  rw [Nat.one_shiftLeft, h] at hlt
  unfold ofUInt32 toUInt32
  rw [List.take_of_length_le (Nat.le_of_eq h), UInt32.toNat_ofNat_of_lt' hlt, ← h, ofNatLE_toNatLE]

theorem ofUInt64_toUInt64 {bs : Bytes} (h : bs.length = 8) : ofUInt64 (toUInt64 bs) = bs := by
  have hlt := toNatLE_lt bs
  rw [Nat.one_shiftLeft, h] at hlt
  unfold ofUInt64 toUInt64
  rw [List.take_of_length_le (Nat.le_of_eq h), UInt64.toNat_ofNat_of_lt' hlt, ← h, ofNatLE_toNatLE]

theorem drop_ofUInt32 (w : UInt32) (rest : Bytes) : (ofUInt32 w ++ rest).drop 4 = rest :=
  List.drop_left' (length_ofUInt32 w)

/-- **Words in a row** are read back from where they stand, whatever follows. -/
theorem toUInt32_drop_words : ∀ {ws : List UInt32} {i : Nat} {w : UInt32} (rest : Bytes), ws[i]? = some w →
    toUInt32 ((ws.flatMap ofUInt32 ++ rest).drop (4 * i)) = w
  | v :: ws, 0, w, rest, h => by
    rw [← Option.some.inj h, List.flatMap_cons, List.append_assoc]
    exact toUInt32_ofUInt32 v _
  | v :: ws, i + 1, w, rest, h => by
    rw [List.flatMap_cons, List.append_assoc, Nat.mul_succ, Nat.add_comm, ← List.drop_drop, drop_ofUInt32]
    exact toUInt32_drop_words rest h

theorem threeWords (a b c : UInt32) (rest : Bytes) :
    let bs := ofUInt32 a ++ ofUInt32 b ++ ofUInt32 c ++ rest
    toUInt32 bs = a ∧ toUInt32 (bs.drop 4) = b ∧ toUInt32 (bs.drop 8) = c := by
  intro bs
  have hbs : bs = [a, b, c].flatMap ofUInt32 ++ rest := by simp [bs]
  rw [hbs]
  exact ⟨toUInt32_drop_words (i := 0) rest rfl, toUInt32_drop_words (i := 1) rest rfl,
    toUInt32_drop_words (i := 2) rest rfl⟩

theorem fourWords (a b c d : UInt32) (rest : Bytes) :
    let bs := ofUInt32 a ++ ofUInt32 b ++ ofUInt32 c ++ ofUInt32 d ++ rest
    toUInt32 bs = a ∧ toUInt32 (bs.drop 4) = b ∧ toUInt32 (bs.drop 8) = c ∧ toUInt32 (bs.drop 12) = d := by
  intro bs
  have hbs : bs = [a, b, c, d].flatMap ofUInt32 ++ rest := by simp [bs]
  rw [hbs]
  exact ⟨toUInt32_drop_words (i := 0) rest rfl, toUInt32_drop_words (i := 1) rest rfl,
    toUInt32_drop_words (i := 2) rest rfl, toUInt32_drop_words (i := 3) rest rfl⟩

/-- **Packed fields that their width holds** are read back as the same number. -/
theorem toNatLE_ofNatLE_pack {width : Nat} {fs : List Bits.Field} (h : Bits.width fs ≤ 8 * width) :
    toNatLE (ofNatLE width (Bits.pack fs)) = Bits.pack fs := by
  have hlt := Bits.pack_lt fs
  rw [Nat.one_shiftLeft] at hlt
  rw [toNatLE_ofNatLE, Nat.one_shiftLeft, Nat.mod_eq_of_lt]
  exact Nat.lt_of_lt_of_le hlt (Nat.pow_le_pow_right (by decide) h)

/-- **A string cut into fields is written again as it was**, if the fields take all of its bits. -/
theorem ofNatLE_pack_cut {bs : Bytes} {ws : List Nat} (h : Bits.width (Bits.cut bs.toNatLE 0 ws) = 8 * bs.length) :
    ofNatLE bs.length (Bits.pack (Bits.cut bs.toNatLE 0 ws)) = bs := by
  have hlt := toNatLE_lt bs
  rw [Nat.one_shiftLeft] at hlt
  rw [Bits.pack_cut, h, Nat.shiftRight_zero, Nat.mod_eq_of_lt hlt, ofNatLE_toNatLE]

end Bytes
end HorizonIpc
