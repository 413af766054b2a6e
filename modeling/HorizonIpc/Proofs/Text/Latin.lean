import HorizonIpc.Proofs.Text.Utf16
/-!
# Proofs.Text.Latin — a byte as the character of its number

Every byte is the number of a character, which takes one unit in UTF-16, and in UTF-8 one byte below 128 and two from
there on.  So a byte string read in this way takes `latinSize` bytes in UTF-8, and if it is the UTF-8 form of a text, it
is read as that text exactly if the text is ASCII (`ofAscii_utf8_iff`): otherwise it is longer.
-/
namespace HorizonIpc
namespace Text

open Utf16 (encode encodeChar size)

def byteChar (b : UInt8) : Char := Char.ofNat b.toNat

/-- How many UTF-8 bytes the characters take whose numbers are the given bytes. -/
def latinSize (bs : Bytes) : Nat := bs.countP isAscii + 2 * bs.countP fun b => !isAscii b

/-- Whether a text consists of ASCII characters. -/
def IsAscii (s : String) : Prop := ∀ c ∈ s.toList, c.toNat < 128

theorem ofAscii_eq (bs : Bytes) : ofAscii bs = String.ofList (bs.map byteChar) := rfl

theorem toNat_byteChar (b : UInt8) : (byteChar b).toNat = b.toNat :=
  Utf16.toNat_ofNat (.inl (Nat.lt_trans b.toNat_lt (by decide)))

theorem utf8Size_eq_one_iff {c : Char} : c.utf8Size = 1 ↔ c.toNat < 128 := by
  rw [Char.utf8Size_eq_one_iff, UInt32.le_iff_toNat_le]
  exact Nat.lt_succ_iff.symm

theorem isAscii_iff {b : UInt8} : isAscii b ↔ b.toNat < 128 := by
  unfold isAscii
  rw [decide_eq_true_iff, UInt8.lt_iff_toNat_lt]
  rfl

theorem utf8Size_byteChar (b : UInt8) : (byteChar b).utf8Size = if isAscii b then 1 else 2 := by
  have hb := toNat_byteChar b
  have hlt := b.toNat_lt
  by_cases hsmall : b.toNat < 128
  · rw [if_pos (isAscii_iff.2 hsmall), utf8Size_eq_one_iff, hb]
    exact hsmall
  · rw [if_neg (mt isAscii_iff.1 hsmall), Char.utf8Size_eq_two_iff, UInt32.lt_iff_toNat_lt, UInt32.le_iff_toNat_le]
    show 127 < (byteChar b).toNat ∧ (byteChar b).toNat ≤ 2047
    omega

theorem size_byteChar : ∀ bs : Bytes, size (bs.map byteChar) = latinSize bs
  | [] => rfl
  | b :: bs => by
    have ih := size_byteChar bs
    unfold latinSize at ih ⊢
    rw [List.map_cons, Utf16.size_cons, utf8Size_byteChar, ih]
    by_cases hb : isAscii b
    · simp [hb]
      omega
    · simp [hb]
      omega

theorem encode_byteChar : ∀ bs : Bytes, encode (bs.map byteChar) = bs.map fun b => UInt16.ofNat b.toNat
  | [] => rfl
  | b :: bs => by
    have hsmall : (byteChar b).toNat < 0x10000 := by
      have := b.toNat_lt
      rw [toNat_byteChar]
      omega
    rw [List.map_cons, List.map_cons, Utf16.encode_cons, encode_byteChar bs, encodeChar, if_pos hsmall, toNat_byteChar]
    rfl

/-! ## ASCII -/

theorem utf8EncodeChar_of_lt {c : Char} (h : c.toNat < 128) : String.utf8EncodeChar c = [UInt8.ofNat c.toNat] :=
  String.utf8EncodeChar_eq_singleton (utf8Size_eq_one_iff.2 h)

theorem byteChar_ofNat {c : Char} (h : c.toNat < 128) : byteChar (UInt8.ofNat c.toNat) = c := by
  unfold byteChar
  rw [UInt8.toNat_ofNat_of_lt' (Nat.lt_trans h (by decide)), Char.ofNat_toNat]

theorem ofAscii_utf8 {s : String} (h : IsAscii s) : ofAscii (utf8 s) = s := by
  have hchars : ∀ cs : List Char, (∀ c ∈ cs, c.toNat < 128) →
      (cs.flatMap String.utf8EncodeChar).map byteChar = cs := by
    intro cs hcs
    induction cs with
    | nil => rfl
    | cons c cs ih =>
      have hc := hcs c List.mem_cons_self
      rw [List.flatMap_cons, utf8EncodeChar_of_lt hc, List.map_append, List.map_singleton, byteChar_ofNat hc,
        ih fun x hx => hcs x (List.mem_cons_of_mem _ hx)]
      rfl
  rw [ofAscii_eq]
  unfold utf8
  rw [hchars s.toList h, String.ofList_toList]

/-- A text takes a byte for each character at least, and more if it is not ASCII. -/
theorem length_le_size : ∀ cs : List Char, cs.length ≤ size cs ∧ (cs.length = size cs → ∀ c ∈ cs, c.toNat < 128)
  | [] => ⟨Nat.le_refl _, fun _ c hc => nomatch hc⟩
  | c :: cs => by
    obtain ⟨hle, hascii⟩ := length_le_size cs
    have hpos := c.utf8Size_pos
    rw [List.length_cons, Utf16.size_cons]
    refine ⟨by omega, fun heq d hd => ?_⟩
    rcases List.mem_cons.1 hd with rfl | hd
    · exact utf8Size_eq_one_iff.1 (by omega)
    · exact hascii (by omega) d hd

/-- **The bytes of a text are read as that text** exactly if it is ASCII. -/
theorem ofAscii_utf8_iff (s : String) : ofAscii (utf8 s) = s ↔ IsAscii s := by
  refine ⟨fun h => ?_, ofAscii_utf8⟩
  have hlen : s.toList.length = size s.toList := by
    conv => lhs; rw [← h, ofAscii_eq, String.toList_ofList, List.length_map]
    rfl
  exact (length_le_size s.toList).2 hlen

/-- A character that is not ASCII has a byte that is none; the last will do. -/
theorem exists_not_isAscii {c : Char} (h : 128 ≤ c.toNat) : ∃ b ∈ String.utf8EncodeChar c, ¬ isAscii b := by
  refine ⟨UInt8.ofNat (c.toNat % 64 + 128), ?_, ?_⟩
  · change 128 ≤ c.val.toNat at h
    unfold String.utf8EncodeChar Char.toNat
    dsimp only
    rw [if_neg (by omega)]
    split
    · simp
    · split <;> simp
  · rw [isAscii_iff, UInt8.toNat_ofNat_of_lt' (show _ < 2 ^ 8 by omega)]
    omega

/-- **A text with ASCII bytes alone is ASCII.** -/
theorem isAscii_of_bytes {s : String} (h : ∀ b ∈ utf8 s, isAscii b) : IsAscii s := by
  intro c hc
  refine Nat.lt_of_not_le fun hlarge => ?_
  obtain ⟨b, hb, hnot⟩ := exists_not_isAscii hlarge
  exact hnot (h b (List.mem_flatMap.2 ⟨c, hc, hb⟩))

/-- **ASCII bytes are those of the text that they are read as.** -/
theorem utf8_ofAscii : ∀ {bs : Bytes}, (∀ b ∈ bs, isAscii b) → utf8 (ofAscii bs) = bs
  | [], _ => rfl
  | b :: bs, h => by
    have hb : (byteChar b).toNat < 128 := by
      rw [toNat_byteChar]
      exact isAscii_iff.1 (h b List.mem_cons_self)
    have ih : utf8 (ofAscii bs) = bs := utf8_ofAscii fun x hx => h x (List.mem_cons_of_mem b hx)
    rw [ofAscii_eq] at ih ⊢
    unfold utf8 at ih ⊢
    rw [String.toList_ofList] at ih ⊢
    rw [List.map_cons, List.flatMap_cons, ih, utf8EncodeChar_of_lt hb, toNat_byteChar, UInt8.ofNat_toNat]
    rfl

theorem latinSize_utf8 {s : String} (h : IsAscii s) : latinSize (utf8 s) = (utf8 s).length := by
  have hchars : (utf8 s).map byteChar = s.toList := by
    rw [← String.toList_ofList (l := (utf8 s).map byteChar), ← ofAscii_eq, ofAscii_utf8 h]
  rw [← size_byteChar, hchars]
  rfl

theorem IsAscii.latinSize_le {s : String} {room : Nat} (h : IsAscii s) (hroom : (utf8 s).length ≤ room) :
    latinSize (utf8 s) ≤ room := by
  rw [latinSize_utf8 h]
  exact hroom

end Text
end HorizonIpc
