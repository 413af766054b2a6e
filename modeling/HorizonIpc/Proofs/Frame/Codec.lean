import HorizonIpc.Frame.Layout
import HorizonIpc.Proofs.Bytes.Word
/-!
# Proofs.Frame.Codec — headers and descriptors read back

Each packed record of a message is read back as it was written (`decode_encode`), and every string of a descriptor's
width is some descriptor's encoding (`encode_decode`).  A descriptor names the low bits of the address and of the length
that it was made for: 42 and 16 bits for a static, 58 and 36 for a mapped buffer, 48 and 16 for an entry of the receive
list.
-/
namespace HorizonIpc

theorem Header.decode_encode (h : Header) : Header.decode h.encode = h := by
  unfold Header.decode Header.encode Header.word
  rw [Bytes.toNatLE_ofNatLE_pack (Nat.le_refl 64)]
  exact Header.ofWord_word h

theorem SpecialHeader.decode_encode (h : SpecialHeader) : SpecialHeader.decode h.encode = h := by
  unfold SpecialHeader.decode SpecialHeader.encode SpecialHeader.word
  rw [Bytes.toNatLE_ofNatLE_pack (show 9 ≤ 32 by decide)]
  exact SpecialHeader.ofWord_word h

@[simp] theorem Header.length_encode (h : Header) : h.encode.length = Header.width := Bytes.length_ofNatLE _ _

@[simp] theorem SpecialHeader.length_encode (h : SpecialHeader) : h.encode.length = SpecialHeader.width :=
  Bytes.length_ofNatLE _ _

theorem Header.word_eq (h : Header) :
    h.word = h.messageType.toNat + h.sendStatics.toNat * 2 ^ 16 + h.sendBuffers.toNat * 2 ^ 20 +
      h.recvBuffers.toNat * 2 ^ 24 + h.exchBuffers.toNat * 2 ^ 28 + h.dataWords.toNat * 2 ^ 32 +
      h.recvListMode.toNat * 2 ^ 42 + h.recvListOffset.toNat * 2 ^ 52 + h.hasSpecial.toNat * 2 ^ 63 := by
  have hflag : (Bits.ofBool h.hasSpecial).toNat = h.hasSpecial.toNat := BitVec.toNat_ofBool _
  have hunused : BitVec.toNat (0 : BitVec 6) = 0 := rfl
  simp only [word, fields, Bits.pack, Nat.shiftLeft_eq, hflag]
  rw [hunused]
  simp only [Nat.add_mul, Nat.mul_assoc, Nat.add_assoc, Nat.zero_mul, Nat.zero_add, Nat.add_zero, ← Nat.pow_add]

theorem SpecialHeader.word_eq (h : SpecialHeader) :
    h.word = h.sendPid.toNat + h.copyHandles.toNat * 2 + h.moveHandles.toNat * 2 ^ 5 := by
  have hflag : (Bits.ofBool h.sendPid).toNat = h.sendPid.toNat := BitVec.toNat_ofBool _
  simp only [word, fields, Bits.pack, Nat.shiftLeft_eq, hflag]
  omega

namespace StaticDescriptor

@[simp] theorem length_encode (d : StaticDescriptor) : d.encode.length = width := Bytes.length_ofNatLE _ _

theorem decode_encode (d : StaticDescriptor) : decode d.encode = d := by
  obtain ⟨ix, ah, am, sz, al⟩ := d
  have cut := fun done f rest => Bits.field_pack done f rest
  unfold decode encode
  rw [Bytes.toNatLE_ofNatLE_pack (Nat.le_refl 64)]
  simp only [ofWord, fields, StaticDescriptor.mk.injEq]
  exact ⟨cut [] ⟨6, ix⟩ _, cut [⟨6, ix⟩] ⟨6, ah⟩ _, cut [⟨6, ix⟩, ⟨6, ah⟩] ⟨4, am⟩ _,
    cut [⟨6, ix⟩, ⟨6, ah⟩, ⟨4, am⟩] ⟨16, sz⟩ _, cut [⟨6, ix⟩, ⟨6, ah⟩, ⟨4, am⟩, ⟨16, sz⟩] ⟨32, al⟩ _⟩

theorem encode_decode {bs : Bytes} (h : bs.length = width) : (decode bs).encode = bs := by
  have hwidth : Bits.width (Bits.cut bs.toNatLE 0 [6, 6, 4, 16, 32]) = 8 * bs.length := by rw [h]; rfl
  have hfields : (decode bs).fields = Bits.cut bs.toNatLE 0 [6, 6, 4, 16, 32] := rfl
  rw [encode, hfields, ← h, Bytes.ofNatLE_pack_cut hwidth]

end StaticDescriptor

namespace BufferDescriptor

@[simp] theorem length_encode (d : BufferDescriptor) : d.encode.length = width := Bytes.length_ofNatLE _ _

theorem decode_encode (d : BufferDescriptor) : decode d.encode = d := by
  obtain ⟨sl, al, mo, ah, sh, am⟩ := d
  have cut := fun done f rest => Bits.field_pack done f rest
  unfold decode encode
  rw [Bytes.toNatLE_ofNatLE_pack (Nat.le_refl 96)]
  simp only [ofWord, fields, BufferDescriptor.mk.injEq]
  refine ⟨cut [] ⟨32, sl⟩ _, cut [⟨32, sl⟩] ⟨32, al⟩ _, ?_, cut [⟨32, sl⟩, ⟨32, al⟩, ⟨2, mo.bits⟩] ⟨22, ah⟩ _,
    cut [⟨32, sl⟩, ⟨32, al⟩, ⟨2, mo.bits⟩, ⟨22, ah⟩] ⟨4, sh⟩ _,
    cut [⟨32, sl⟩, ⟨32, al⟩, ⟨2, mo.bits⟩, ⟨22, ah⟩, ⟨4, sh⟩] ⟨4, am⟩ _⟩
  exact (congrArg BufferMode.ofBits (cut [⟨32, sl⟩, ⟨32, al⟩] ⟨2, mo.bits⟩ _)).trans (BufferMode.ofBits_bits mo)

theorem encode_decode {bs : Bytes} (h : bs.length = width) : (decode bs).encode = bs := by
  have hwidth : Bits.width (Bits.cut bs.toNatLE 0 [32, 32, 2, 22, 4, 4]) = 8 * bs.length := by rw [h]; rfl
  have hfields : (decode bs).fields = Bits.cut bs.toNatLE 0 [32, 32, 2, 22, 4, 4] := by
    unfold fields decode ofWord
    rw [BufferMode.bits_ofBits]
    rfl
  rw [encode, hfields, ← h, Bytes.ofNatLE_pack_cut hwidth]

end BufferDescriptor

namespace RecvEntry

@[simp] theorem length_encode (e : RecvEntry) : e.encode.length = width := Bytes.length_ofNatLE _ _

theorem decode_encode (e : RecvEntry) : decode e.encode = e := by
  obtain ⟨al, ah, sz⟩ := e
  have cut := fun done f rest => Bits.field_pack done f rest
  unfold decode encode
  rw [Bytes.toNatLE_ofNatLE_pack (Nat.le_refl 64)]
  simp only [ofWord, fields, RecvEntry.mk.injEq]
  exact ⟨cut [] ⟨32, al⟩ _, cut [⟨32, al⟩] ⟨16, ah⟩ _, cut [⟨32, al⟩, ⟨16, ah⟩] ⟨16, sz⟩ _⟩

theorem encode_decode {bs : Bytes} (h : bs.length = width) : (decode bs).encode = bs := by
  have hwidth : Bits.width (Bits.cut bs.toNatLE 0 [32, 16, 16]) = 8 * bs.length := by rw [h]; rfl
  have hfields : (decode bs).fields = Bits.cut bs.toNatLE 0 [32, 16, 16] := rfl
  rw [encode, hfields, ← h, Bytes.ofNatLE_pack_cut hwidth]

end RecvEntry

/-! ## what a descriptor names -/

namespace AddressParts

/-- **Joining adds the pieces up**, as long as the middle one has four bits and the high one twenty-eight. -/
theorem toNat_join {p : AddressParts} (hm : p.mid.toNat < 2 ^ 4) (hh : p.high.toNat < 2 ^ 28) :
    p.join.toNat = p.low.toNat + p.mid.toNat * 2 ^ 32 + p.high.toNat * 2 ^ 36 := by
  have hl : p.low.toNat < 2 ^ 32 := p.low.toNat_lt
  have hlow : p.low.toUInt64.toNat = p.low.toNat := UInt32.toNat_toUInt64 _
  have hmid : (p.mid.toUInt64 <<< (32 : UInt64)).toNat = p.mid.toNat <<< 32 := by
    rw [UInt64.toNat_shiftLeft, UInt8.toNat_toUInt64]
    show p.mid.toNat <<< 32 % 2 ^ 64 = _
    rw [Nat.shiftLeft_eq]
    omega
  have hhigh : (p.high <<< (36 : UInt64)).toNat = p.high.toNat <<< 36 := by
    rw [UInt64.toNat_shiftLeft]
    show p.high.toNat <<< 36 % 2 ^ 64 = _
    rw [Nat.shiftLeft_eq]
    omega
  unfold join
  rw [UInt64.toNat_or, UInt64.toNat_or, hlow, hmid, hhigh, Nat.or_comm p.low.toNat,
    ← Nat.shiftLeft_add_eq_or_of_lt hl, Nat.or_comm, Nat.shiftLeft_eq p.mid.toNat,
    ← Nat.shiftLeft_add_eq_or_of_lt (by omega), Nat.shiftLeft_eq]
  omega

theorem toNat_split_low (a : UInt64) : (split a).low.toNat = a.toNat % 2 ^ 32 := UInt64.toNat_toUInt32 a

theorem toNat_split_mid (a : UInt64) : (split a).mid.toNat = a.toNat / 2 ^ 32 % 2 ^ 4 := by
  show ((a >>> (32 : UInt64)) &&& (0xF : UInt64)).toUInt8.toNat = _
  rw [UInt64.toNat_toUInt8, UInt64.toNat_and, UInt64.toNat_shiftRight]
  show (a.toNat >>> 32 &&& 2 ^ 4 - 1) % 2 ^ 8 = _
  rw [Nat.and_two_pow_sub_one_eq_mod, Nat.shiftRight_eq_div_pow]
  omega

theorem toNat_split_high (a : UInt64) : (split a).high.toNat = a.toNat / 2 ^ 36 := by
  show (a >>> (36 : UInt64)).toNat = _
  rw [UInt64.toNat_shiftRight]
  exact Nat.shiftRight_eq_div_pow _ _

/-- **The pieces of an address, the highest cut to `bits` bits, make up its low bits.** -/
theorem toNat_join_split (a : UInt64) {bits : Nat} (hb : bits ≤ 28) :
    (join ⟨.ofBitVec (BitVec.ofNat 32 (split a).low.toNat),
        UInt8.ofNat (BitVec.ofNat 4 (split a).mid.toNat).toNat,
        UInt64.ofNat (BitVec.ofNat bits (split a).high.toNat).toNat⟩).toNat = a.toNat % 2 ^ (36 + bits) := by
  have hpow : 2 ^ bits ≤ 2 ^ 28 := Nat.pow_le_pow_right (by decide) hb
  have hcut := Nat.mod_lt (a.toNat / 2 ^ 36) (Nat.two_pow_pos bits)
  have hhigh : (UInt64.ofNat (a.toNat / 2 ^ 36 % 2 ^ bits)).toNat = a.toNat / 2 ^ 36 % 2 ^ bits :=
    UInt64.toNat_ofNat_of_lt' (Nat.lt_of_lt_of_le hcut (Nat.le_trans hpow (by decide)))
  have hmid : (UInt8.ofNat (a.toNat / 2 ^ 32 % 2 ^ 4)).toNat = a.toNat / 2 ^ 32 % 2 ^ 4 :=
    UInt8.toNat_ofNat_of_lt' (show _ < 2 ^ 8 by omega)
  rw [toNat_split_low, toNat_split_mid, toNat_split_high, BitVec.toNat_ofNat, BitVec.toNat_ofNat, Nat.mod_mod,
    toNat_join]
  · rw [hhigh, hmid, Nat.pow_add, Nat.mod_mul]
    show (BitVec.ofNat 32 (a.toNat % 2 ^ 32)).toNat + _ + _ = _
    rw [BitVec.toNat_ofNat]
    omega
  · rw [hmid]
    omega
  · rw [hhigh]
    omega

end AddressParts

namespace StaticDescriptor

variable (address : UInt64) (size index : Nat)

/-- **A static names the low 42 bits of its address.** -/
theorem toNat_address_describe : (describe address size index).address.toNat = address.toNat % 2 ^ 42 :=
  AddressParts.toNat_join_split address (show 6 ≤ 28 by decide)

theorem toNat_size_describe : (describe address size index).size.toNat = size % 2 ^ 16 := BitVec.toNat_ofNat _ _

theorem toNat_index_describe : (describe address size index).index.toNat = index % 2 ^ 6 := BitVec.toNat_ofNat _ _

end StaticDescriptor

namespace BufferDescriptor

variable (address : UInt64) (size : Nat) (mode : BufferMode)

/-- **A mapped buffer names the low 58 bits of its address.** -/
theorem toNat_address_describe : (describe address size mode).address.toNat = address.toNat % 2 ^ 58 :=
  AddressParts.toNat_join_split address (show 22 ≤ 28 by decide)

/-- **A mapped buffer names the low 36 bits of its length.** -/
theorem size_describe : (describe address size mode).size = size % 2 ^ 36 := by
  show (BitVec.ofNat 32 size).toNat + (BitVec.ofNat 4 (size >>> 32)).toNat <<< 32 = _
  rw [BitVec.toNat_ofNat, BitVec.toNat_ofNat, Nat.shiftRight_eq_div_pow, Nat.shiftLeft_eq]
  omega

end BufferDescriptor

namespace RecvEntry

variable (address : UInt64) (size : Nat)

/-- **An entry of the receive list names the low 48 bits of its address.** -/
theorem toNat_address_describe : (describe address size).address.toNat = address.toNat % 2 ^ 48 := by
  show (UInt64.ofNat ((BitVec.ofNat 32 address.toNat).toNat +
    (BitVec.ofNat 16 (address.toNat >>> 32)).toNat <<< 32)).toNat = _
  rw [BitVec.toNat_ofNat, BitVec.toNat_ofNat, Nat.shiftRight_eq_div_pow, Nat.shiftLeft_eq, UInt64.toNat_ofNat_of_lt']
  · omega
  · show _ < 2 ^ 64
    omega

theorem toNat_size_describe : (describe address size).size.toNat = size % 2 ^ 16 := BitVec.toNat_ofNat _ _

end RecvEntry
end HorizonIpc
