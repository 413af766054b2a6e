import HorizonIpc.Text
/-!
# Proofs.Text.Utf16 — the decoder against the encoding

`encode` is the encoding that a decoder has to undo: one unit for a character below 0x10000, and a high and a low
surrogate for any other.  Every list of units is the encoding of a text with nothing behind it, or with a surrogate behind
it that has no partner (`exists_encode_append`).  So there are three ways for a text of limited size to be decoded, and
the decoder takes the one that applies (`decode_eq_iff`): the units are a text that has room, or a text that has room
with a lone surrogate behind it, or they start with a text of which the last character has no room.
-/
namespace HorizonIpc
namespace Text
namespace Utf16

def encodeChar (c : Char) : List UInt16 :=
  if c.toNat < 0x10000 then [UInt16.ofNat c.toNat]
  else [UInt16.ofNat (0xD800 + (c.toNat - 0x10000) / 0x400), UInt16.ofNat (0xDC00 + (c.toNat - 0x10000) % 0x400)]

def encode (cs : List Char) : List UInt16 := cs.flatMap encodeChar

/-- How many bytes a text takes in UTF-8. -/
def size (cs : List Char) : Nat := (cs.flatMap String.utf8EncodeChar).length

/-- Units that start with a surrogate that is none of a pair. -/
inductive Lone : List UInt16 → Prop
  | low {u : UInt16} {us : List UInt16} (h : isLow u) : Lone (u :: us)
  | high {u : UInt16} {us : List UInt16} (h : isHigh u) (alone : ∀ v ∈ us.head?, ¬ isLow v) : Lone (u :: us)

/-- What becomes of units that are decoded into a text of at most `room` bytes. -/
inductive Decodes (room : Nat) : List UInt16 → Except Utf16Error (List Char) → Prop
  | text {cs : List Char} (fits : size cs ≤ room) : Decodes room (encode cs) (.ok cs)
  | lone {cs : List Char} {us : List UInt16} (fits : size cs ≤ room) (h : Lone us) :
      Decodes room (encode cs ++ us) (.error .unpairedSurrogate)
  | full {cs : List Char} {c : Char} {us : List UInt16} (fits : size cs ≤ room) (h : room < size (cs ++ [c])) :
      Decodes room (encode (cs ++ [c]) ++ us) (.error .noRoom)

/-! ## One character -/

theorem toNat_lt_or (c : Char) : c.toNat < 0xD800 ∨ 0xDFFF < c.toNat ∧ c.toNat < 0x110000 := c.valid

theorem isHigh_iff (u : UInt16) : isHigh u ↔ 0xD800 ≤ u.toNat ∧ u.toNat < 0xDC00 := by
  simp [isHigh]

theorem isLow_iff (u : UInt16) : isLow u ↔ 0xDC00 ≤ u.toNat ∧ u.toNat < 0xE000 := by
  simp [isLow]

theorem not_isHigh_of_isLow {u : UInt16} (h : isLow u) : ¬ isHigh u := by
  rw [isLow_iff] at h
  rw [isHigh_iff]
  omega

theorem decode_single {u : UInt16} (hhigh : ¬ isHigh u) (hlow : ¬ isLow u) (room : Nat) (us : List UInt16) :
    decode room (u :: us) = push room (Char.ofNat u.toNat) (fun room => decode room us) := by
  rw [decode.eq_def]
  simp only [hhigh, hlow, Bool.false_eq_true, if_false]

theorem decode_pair {u v : UInt16} (hhigh : isHigh u) (hlow : isLow v) (room : Nat) (us : List UInt16) :
    decode room (u :: v :: us) = push room (joinPair u v) (fun room => decode room us) := by
  rw [decode.eq_def]
  simp only [hhigh, hlow, if_true]

theorem toNat_ofNat {n : Nat} (h : n < 0xD800 ∨ 0xDFFF < n ∧ n < 0x110000) : (Char.ofNat n).toNat = n := by
  rw [Char.ofNat, dif_pos h]
  rfl

/-- **A unit that is no surrogate** is the encoding of a character. -/
theorem encodeChar_ofNat {u : UInt16} (hhigh : ¬ isHigh u) (hlow : ¬ isLow u) : encodeChar (Char.ofNat u.toNat) = [u] := by
  have hu : u.toNat < 0x10000 := u.toNat_lt
  rw [isHigh_iff] at hhigh
  rw [isLow_iff] at hlow
  unfold encodeChar
  rw [toNat_ofNat (by omega), if_pos hu, UInt16.ofNat_toNat]

/-- **Two units that are a pair** are the encoding of a character. -/
theorem encodeChar_joinPair {u v : UInt16} (hhigh : isHigh u) (hlow : isLow v) : encodeChar (joinPair u v) = [u, v] := by
  rw [isHigh_iff] at hhigh
  rw [isLow_iff] at hlow
  have hvalue : (joinPair u v).toNat = 0x10000 + (u.toNat - 0xD800) * 0x400 + (v.toNat - 0xDC00) :=
    toNat_ofNat (by omega)
  have hu : 0xD800 + ((joinPair u v).toNat - 0x10000) / 0x400 = u.toNat := by omega
  have hv : 0xDC00 + ((joinPair u v).toNat - 0x10000) % 0x400 = v.toNat := by omega
  unfold encodeChar
  rw [if_neg (by omega), hu, hv, UInt16.ofNat_toNat, UInt16.ofNat_toNat]

/-- **One character** is decoded from its units, whatever stands behind them. -/
theorem decode_encodeChar_append (room : Nat) (c : Char) (us : List UInt16) :
    decode room (encodeChar c ++ us) = push room c (fun room => decode room us) := by
  have hc := toNat_lt_or c
  unfold encodeChar
  by_cases hsmall : c.toNat < 0x10000
  · have hunit : (UInt16.ofNat c.toNat).toNat = c.toNat := UInt16.toNat_ofNat_of_lt' hsmall
    rw [if_pos hsmall, List.singleton_append, decode_single, hunit, Char.ofNat_toNat]
    · rw [isHigh_iff, hunit]
      omega
    · rw [isLow_iff, hunit]
      omega
  · have hhigh : (UInt16.ofNat (0xD800 + (c.toNat - 0x10000) / 0x400)).toNat = 0xD800 + (c.toNat - 0x10000) / 0x400 :=
      UInt16.toNat_ofNat_of_lt' (show _ < 65536 by omega)
    have hlow : (UInt16.ofNat (0xDC00 + (c.toNat - 0x10000) % 0x400)).toNat = 0xDC00 + (c.toNat - 0x10000) % 0x400 :=
      UInt16.toNat_ofNat_of_lt' (show _ < 65536 by omega)
    have hjoin : 0x10000 + (0xD800 + (c.toNat - 0x10000) / 0x400 - 0xD800) * 0x400 +
        (0xDC00 + (c.toNat - 0x10000) % 0x400 - 0xDC00) = c.toNat := by omega
    rw [if_neg hsmall, List.cons_append, List.singleton_append, decode_pair]
    · unfold joinPair
      rw [hhigh, hlow, hjoin, Char.ofNat_toNat]
    · rw [isHigh_iff, hhigh]
      omega
    · rw [isLow_iff, hlow]
      omega

theorem decode_lone {us : List UInt16} (h : Lone us) (room : Nat) : decode room us = .error .unpairedSurrogate := by
  cases h with
  | low hlow =>
    rw [decode.eq_def]
    simp [hlow, not_isHigh_of_isLow hlow]
  | @high u us hhigh halone =>
    rw [decode.eq_def]
    cases us with
    | nil => simp [hhigh]
    | cons v us => simp [hhigh, halone v rfl]

/-! ## A whole text -/

theorem size_cons (c : Char) (cs : List Char) : size (c :: cs) = c.utf8Size + size cs := by
  unfold size
  rw [List.flatMap_cons, List.length_append, String.length_utf8EncodeChar]

theorem size_append (cs ds : List Char) : size (cs ++ ds) = size cs + size ds := by
  unfold size
  rw [List.flatMap_append, List.length_append]

theorem encode_cons (c : Char) (cs : List Char) : encode (c :: cs) = encodeChar c ++ encode cs := List.flatMap_cons

theorem encode_append (cs ds : List Char) : encode (cs ++ ds) = encode cs ++ encode ds := List.flatMap_append

/-- **A text that has room** is decoded, and then what stands behind it with what is left of the room. -/
theorem decode_encode_append : ∀ (cs : List Char) (room : Nat) (us : List UInt16), size cs ≤ room →
    decode room (encode cs ++ us) = (decode (room - size cs) us).map (cs ++ ·)
  | [], room, us, _ => by
    show decode room us = (decode room us).map fun ds => ds
    cases decode room us <;> rfl
  | c :: cs, room, us, h => by
    rw [size_cons] at h ⊢
    rw [encode_cons, List.append_assoc, decode_encodeChar_append, push, if_pos (by omega),
      decode_encode_append cs _ us (by omega), Nat.sub_sub]
    cases decode (room - (c.utf8Size + size cs)) us <;> rfl

theorem decode_noRoom {room : Nat} {c : Char} (h : room < c.utf8Size) (us : List UInt16) :
    decode room (encodeChar c ++ us) = .error .noRoom := by
  rw [decode_encodeChar_append, push, if_neg (Nat.not_le.2 h)]

/-- **The decoder does** what the encoding says. -/
theorem Decodes.decode_eq {room : Nat} {us : List UInt16} {r : Except Utf16Error (List Char)} (h : Decodes room us r) :
    decode room us = r := by
  cases h with
  | @text cs fits =>
    rw [← List.append_nil (encode cs), decode_encode_append cs room [] fits]
    show Except.ok (cs ++ []) = _
    rw [List.append_nil]
  | lone fits h =>
    rw [decode_encode_append _ room _ fits, decode_lone h]
    rfl
  | @full cs c us fits h =>
    rw [size_append, size_cons] at h
    have hover : room - size cs < c.utf8Size := by
      have hnil : size [] = 0 := rfl
      omega
    rw [encode_append, List.append_assoc, decode_encode_append _ room _ fits, encode_cons, List.append_assoc,
      decode_noRoom hover]
    rfl

/-- **Every list of units** is a text, with nothing behind it or a lone surrogate. -/
theorem exists_encode_append : ∀ us : List UInt16, ∃ cs rest, us = encode cs ++ rest ∧ (rest = [] ∨ Lone rest)
  | [] => ⟨[], [], rfl, .inl rfl⟩
  | u :: us => by
    by_cases hlow : isLow u
    · exact ⟨[], u :: us, rfl, .inr (.low hlow)⟩
    by_cases hhigh : isHigh u
    · match us with
      | [] => exact ⟨[], [u], rfl, .inr (.high hhigh (by simp))⟩
      | v :: us =>
        by_cases hpair : isLow v
        · obtain ⟨cs, rest, hus, hrest⟩ := exists_encode_append us
          refine ⟨joinPair u v :: cs, rest, ?_, hrest⟩
          rw [encode_cons, List.append_assoc, ← hus, encodeChar_joinPair hhigh hpair]
          rfl
        · exact ⟨[], u :: v :: us, rfl, .inr (.high hhigh (by simpa using hpair))⟩
    · obtain ⟨cs, rest, hus, hrest⟩ := exists_encode_append us
      refine ⟨Char.ofNat u.toNat :: cs, rest, ?_, hrest⟩
      rw [encode_cons, List.append_assoc, ← hus, encodeChar_ofNat hhigh hlow]
      rfl

/-- A text that has no room has a first character that has none. -/
theorem exists_full : ∀ (room : Nat) (cs : List Char), room < size cs →
    ∃ done c rest, cs = done ++ c :: rest ∧ size done ≤ room ∧ room < size (done ++ [c])
  | _, [], h => absurd h (Nat.not_lt_zero _)
  | room, c :: cs, h => by
    rcases Nat.lt_or_ge room c.utf8Size with hc | hc
    · refine ⟨[], c, cs, rfl, Nat.zero_le _, ?_⟩
      rw [List.nil_append, size_cons]
      omega
    · rw [size_cons] at h
      obtain ⟨done, d, rest, rfl, hdone, hd⟩ := exists_full (room - c.utf8Size) cs (by omega)
      refine ⟨c :: done, d, rest, rfl, ?_, ?_⟩
      · rw [size_cons]
        omega
      · rw [List.cons_append, size_cons]
        omega

theorem Decodes.of_lt_size {room : Nat} {cs : List Char} (h : room < size cs) (us : List UInt16) :
    Decodes room (encode cs ++ us) (.error .noRoom) := by
  obtain ⟨done, c, rest, rfl, hdone, hc⟩ := exists_full room cs h
  rw [List.append_cons, encode_append, List.append_assoc]
  exact .full hdone hc

/-- **A text** is decoded from its encoding if it has room. -/
theorem decode_encode (room : Nat) (cs : List Char) :
    decode room (encode cs) = if size cs ≤ room then .ok cs else .error .noRoom := by
  by_cases hfits : size cs ≤ room
  · rw [if_pos hfits, (Decodes.text hfits).decode_eq]
  · rw [if_neg hfits, ← List.append_nil (encode cs), (Decodes.of_lt_size (Nat.lt_of_not_le hfits) []).decode_eq]

theorem exists_decodes (room : Nat) (us : List UInt16) : ∃ r, Decodes room us r := by
  obtain ⟨cs, rest, rfl, hrest⟩ := exists_encode_append us
  rcases Nat.lt_or_ge room (size cs) with hover | hfits
  · exact ⟨_, .of_lt_size hover rest⟩
  · rcases hrest with rfl | hlone
    · rw [List.append_nil]
      exact ⟨_, .text hfits⟩
    · exact ⟨_, .lone hfits hlone⟩

/-- **What a list of units is decoded to**, and why it is not. -/
theorem decode_eq_iff {room : Nat} {us : List UInt16} {r : Except Utf16Error (List Char)} :
    decode room us = r ↔ Decodes room us r := by
  constructor
  · rintro rfl
    obtain ⟨r, hr⟩ := exists_decodes room us
    rwa [hr.decode_eq]
  · exact Decodes.decode_eq

end Utf16
end Text
end HorizonIpc
