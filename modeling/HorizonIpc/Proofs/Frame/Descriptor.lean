import HorizonIpc.Proofs.Frame.Entry
import Mathlib.Logic.ExistsUnique
/-!
# Proofs.Frame.Descriptor — each string of a descriptor's width names one part of memory

A descriptor keeps low bits of an address and of a length, and a tag: its mode or its index.  It is made again from what
it names (`describe_self`), so in these bits its strings and what they name are one to one (`descriptors_one_to_one`).
-/
namespace HorizonIpc

/-! ## the pieces of an address -/

namespace AddressParts

theorem ext_toNat {p q : AddressParts} (hl : p.low.toNat = q.low.toNat) (hm : p.mid.toNat = q.mid.toNat)
    (hh : p.high.toNat = q.high.toNat) : p = q := by
  obtain ⟨low, mid, high⟩ := p
  obtain ⟨low', mid', high'⟩ := q
  cases UInt32.toNat.inj hl
  cases UInt8.toNat.inj hm
  cases UInt64.toNat.inj hh
  rfl

/-- **The pieces of an address make it up again.** -/
theorem join_split (a : UInt64) : (split a).join = a := by
  have ha := a.toNat_lt
  have hm := toNat_split_mid a
  have hh := toNat_split_high a
  apply UInt64.toNat.inj
  rw [toNat_join (by omega) (by omega), toNat_split_low, hm, hh]
  omega

/-- **An address is cut where it was joined**, if its pieces do not overlap and none is lost. -/
theorem split_join {p : AddressParts} (hm : p.mid.toNat < 2 ^ 4) (hh : p.high.toNat < 2 ^ 28) : split p.join = p := by
  have hl := p.low.toNat_lt
  have hjoin := toNat_join hm hh
  apply ext_toNat
  · rw [toNat_split_low, hjoin]
    omega
  · rw [toNat_split_mid, hjoin]
    omega
  · rw [toNat_split_high, hjoin]
    omega

/-- **The fields of an address are cut out of it again.** -/
theorem fields_split_join (low : BitVec 32) (mid : BitVec 4) {bits : Nat} (high : BitVec bits) (hb : bits ≤ 28) :
    let parts := split (join ⟨.ofBitVec low, UInt8.ofNat mid.toNat, UInt64.ofNat high.toNat⟩)
    BitVec.ofNat 32 parts.low.toNat = low ∧ BitVec.ofNat 4 parts.mid.toNat = mid ∧
      BitVec.ofNat bits parts.high.toNat = high := by
  have hpow : 2 ^ bits ≤ 2 ^ 28 := Nat.pow_le_pow_right (by decide) hb
  have hh : high.toNat < 2 ^ 28 := Nat.lt_of_lt_of_le high.isLt hpow
  have hmid : (UInt8.ofNat mid.toNat).toNat = mid.toNat :=
    UInt8.toNat_ofNat_of_lt' (Nat.lt_trans mid.isLt (by decide))
  have hhigh : (UInt64.ofNat high.toNat).toNat = high.toNat :=
    UInt64.toNat_ofNat_of_lt' (Nat.lt_trans hh (by decide))
  dsimp only
  rw [split_join (by rw [hmid]; exact mid.isLt) (by rw [hhigh]; exact hh)]
  dsimp only
  rw [hmid, hhigh]
  simp only [BitVec.ofNat_toNat, BitVec.setWidth_eq, and_true]
  exact (BitVec.ofNat_toNat 32 low).trans (BitVec.setWidth_eq low)

end AddressParts

/-! ## a descriptor is made again from what it names -/

theorem StaticDescriptor.describe_self (d : StaticDescriptor) :
    describe d.address d.size.toNat d.index.toNat = d := by
  obtain ⟨index, high, mid, size, low⟩ := d
  obtain ⟨hl, hm, hh⟩ := AddressParts.fields_split_join low mid high (show 6 ≤ 28 by decide)
  simp only [describe, address, hl, hm, hh, BitVec.ofNat_toNat, BitVec.setWidth_eq]

theorem BufferDescriptor.describe_self (d : BufferDescriptor) : describe d.address d.size d.mode = d := by
  obtain ⟨sizeLow, low, mode, high, sizeHigh, mid⟩ := d
  obtain ⟨hl, hm, hh⟩ := AddressParts.fields_split_join low mid high (show 22 ≤ 28 by decide)
  have hlow := sizeLow.isLt
  have hsizeLow : BitVec.ofNat 32 (sizeLow.toNat + sizeHigh.toNat <<< 32) = sizeLow := by
    apply BitVec.eq_of_toNat_eq
    rw [BitVec.toNat_ofNat, Nat.shiftLeft_eq]
    omega
  have hsizeHigh : BitVec.ofNat 4 ((sizeLow.toNat + sizeHigh.toNat <<< 32) >>> 32) = sizeHigh := by
    have hhigh := sizeHigh.isLt
    apply BitVec.eq_of_toNat_eq
    rw [BitVec.toNat_ofNat, Nat.shiftLeft_eq, Nat.shiftRight_eq_div_pow]
    omega
  simp only [describe, BufferDescriptor.mk.injEq]
  exact ⟨hsizeLow, hl, trivial, hh, hsizeHigh, hm⟩

theorem RecvEntry.describe_self (e : RecvEntry) : describe e.address e.size.toNat = e := by
  obtain ⟨low, high, size⟩ := e
  have hlow := low.isLt
  have hhigh := high.isLt
  have haddress : (UInt64.ofNat (low.toNat + high.toNat <<< 32)).toNat = low.toNat + high.toNat * 2 ^ 32 := by
    rw [Nat.shiftLeft_eq, UInt64.toNat_ofNat_of_lt' (show _ < 2 ^ 64 by omega)]
  have hl : BitVec.ofNat 32 (low.toNat + high.toNat * 2 ^ 32) = low := by
    apply BitVec.eq_of_toNat_eq
    rw [BitVec.toNat_ofNat]
    omega
  have hh : BitVec.ofNat 16 ((low.toNat + high.toNat * 2 ^ 32) >>> 32) = high := by
    apply BitVec.eq_of_toNat_eq
    rw [BitVec.toNat_ofNat, Nat.shiftRight_eq_div_pow]
    omega
  simp only [describe, address, haddress, hl, hh, BitVec.ofNat_toNat, BitVec.setWidth_eq]

/-! ## strings and what they name -/

/-- **Entries stand one to one for what they name**: the low bits of an address and of a length, and a tag cut to what
the entries keep of it.  An entry names these of what it was made for, it is made again from what it names, and each
string of the entries' width is the one for exactly one address, length and tag. -/
structure OneToOne {δ α : Type} (c : EntryCodec δ) (describe : UInt64 → Nat → α → δ) (address : δ → UInt64)
    (size : δ → Nat) (tag : δ → α) (addressBits sizeBits : Nat) (cut : α → α) : Prop where
  names : ∀ a n x, let d := c.decode (c.encode (describe a n x))
    (address d).toNat = a.toNat % 2 ^ addressBits ∧ size d = n % 2 ^ sizeBits ∧ tag d = cut x
  made_again : ∀ bs : Bytes, bs.length = c.width → let d := c.decode bs
    c.encode (describe (address d) (size d) (tag d)) = bs
  unique : ∀ bs : Bytes, bs.length = c.width → ∃! t : UInt64 × Nat × α,
    (t.1.toNat < 2 ^ addressBits ∧ t.2.1 < 2 ^ sizeBits ∧ cut t.2.2 = t.2.2) ∧
      c.encode (describe t.1 t.2.1 t.2.2) = bs

section laws

variable {δ α : Type} {c : EntryCodec δ} {describe : UInt64 → Nat → α → δ} {address : δ → UInt64} {size : δ → Nat}
  {tag : δ → α} {addressBits sizeBits : Nat} {cut : α → α}

/-- **Two laws make entries one to one** with what they name: what an entry names of what it was made for, and that it
is made again from what it names. -/
theorem oneToOne_of_describe_self
    (hnames : ∀ a n x, (address (describe a n x)).toNat = a.toNat % 2 ^ addressBits ∧
      size (describe a n x) = n % 2 ^ sizeBits ∧ tag (describe a n x) = cut x)
    (hself : ∀ d, describe (address d) (size d) (tag d) = d) :
    OneToOne c describe address size tag addressBits sizeBits cut where
  names := fun a n x => by
    rw [c.decode_encode]
    exact hnames a n x
  made_again := fun bs hbs => by
    show c.encode (describe _ _ _) = bs
    rw [hself, c.encode_decode hbs]
  unique := fun bs hbs => by
    obtain ⟨haddress, hsize, htag⟩ :=
      hnames (address (c.decode bs)) (size (c.decode bs)) (tag (c.decode bs))
    rw [hself] at haddress hsize htag
    refine ⟨(address (c.decode bs), size (c.decode bs), tag (c.decode bs)), ⟨⟨?_, ?_, htag.symm⟩, ?_⟩, ?_⟩
    · rw [haddress]
      exact Nat.mod_lt _ (Nat.two_pow_pos _)
    · show size (c.decode bs) < _
      rw [hsize]
      exact Nat.mod_lt _ (Nat.two_pow_pos _)
    · show c.encode (describe _ _ _) = bs
      rw [hself, c.encode_decode hbs]
    · -- any other is what the string names as well, for it is kept as it is
      rintro ⟨a, n, x⟩ ⟨⟨ha, hn, hx⟩, rfl⟩
      obtain ⟨haddress, hsize, htag⟩ := hnames a n x
      rw [c.decode_encode]
      refine Prod.ext (UInt64.toNat.inj ?_) (Prod.ext ?_ ?_)
      · exact (haddress.trans (Nat.mod_eq_of_lt ha)).symm
      · exact (hsize.trans (Nat.mod_eq_of_lt hn)).symm
      · exact (htag.trans hx).symm

end laws

/-- **Descriptors and their strings are one to one with the memory that they name.**  An address is made up of its
pieces again.  A mapped buffer is one to one with 58 bits of an address, 36 of a length, and a mode; a static with 42, 16
and an index of six bits; an entry of the receive list with 48 and 16. -/
theorem descriptors_one_to_one :
    (∀ a : UInt64, (AddressParts.split a).join = a) ∧
      OneToOne BufferDescriptor.codec BufferDescriptor.describe (·.address) (·.size) (·.mode) 58 36 id ∧
      OneToOne StaticDescriptor.codec StaticDescriptor.describe (·.address) (·.size.toNat) (·.index.toNat) 42 16
        (· % 2 ^ 6) ∧
      OneToOne RecvEntry.codec (fun a n (_ : Unit) => RecvEntry.describe a n) (·.address) (·.size.toNat) (fun _ => ()) 48
        16 id := by
  refine ⟨AddressParts.join_split, ?buffer, ?static, ?entry⟩
  case buffer =>
    refine oneToOne_of_describe_self (fun a n mode => ?_) BufferDescriptor.describe_self
    exact ⟨BufferDescriptor.toNat_address_describe a n mode, BufferDescriptor.size_describe a n mode, rfl⟩
  case static =>
    refine oneToOne_of_describe_self (fun a n index => ?_) StaticDescriptor.describe_self
    exact ⟨StaticDescriptor.toNat_address_describe a n index, StaticDescriptor.toNat_size_describe a n index,
      StaticDescriptor.toNat_index_describe a n index⟩
  case entry =>
    refine oneToOne_of_describe_self (fun a n _ => ?_) RecvEntry.describe_self
    exact ⟨RecvEntry.toNat_address_describe a n, RecvEntry.toNat_size_describe a n, rfl⟩

end HorizonIpc
