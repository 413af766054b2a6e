import HorizonIpc.Proofs.Parcel.Reach
import HorizonIpc.Proofs.Text.Utf16
/-!
# Proofs.Parcel.TextGrammar — what the readers of texts accept

A text is a signed length, that many units, and one more that is not looked at, with padding behind it; the length −1 is
the null text.  `TextRead` and `TokenRead` say from the unread bytes alone how a reader of a text or of an interface
token ends and how many bytes it has read then, which is none if it fails.  Each of the readers does that and nothing
else (`text_grammar`).
-/
namespace HorizonIpc
namespace Parcel

open Text.Utf16 (units encode Decodes)

/-- The signed number in the first word of a byte string. -/
def leading (bs : Bytes) : Int := (Bytes.toUInt32 bs).toInt32.toInt

/-- How reading a text of at most `room` bytes ends, and how many bytes are read. -/
inductive TextRead (room : Nat) (rest : Bytes) : Except Error (Option String) → Nat → Prop
  | short (h : rest.length < 4) : TextRead room rest (.error .underflow) 0
  | null (h : 4 ≤ rest.length) (hlen : leading rest = -1) : TextRead room rest (.ok none) 4
  | negative (h : 4 ≤ rest.length) (hneg : leading rest < 0) (hlen : leading rest ≠ -1) :
      TextRead room rest (.error .invalidLength) 0
  | truncated {len : Nat} (h : 4 ≤ rest.length) (hlen : leading rest = len)
      (hcut : rest.length - 4 < padded (2 * (len + 1))) : TextRead room rest (.error .underflow) 0
  | invalid {len : Nat} (h : 4 ≤ rest.length) (hlen : leading rest = len)
      (hfit : padded (2 * (len + 1)) ≤ rest.length - 4)
      (hunits : Decodes room ((units (rest.drop 4)).take len) (.error .unpairedSurrogate)) :
      TextRead room rest (.error .invalidString) 0
  | tooLong {len : Nat} (h : 4 ≤ rest.length) (hlen : leading rest = len)
      (hfit : padded (2 * (len + 1)) ≤ rest.length - 4)
      (hunits : Decodes room ((units (rest.drop 4)).take len) (.error .noRoom)) :
      TextRead room rest (.error .stringTooLong) 0
  | text {len : Nat} {cs : List Char} (h : 4 ≤ rest.length) (hlen : leading rest = len)
      (hfit : padded (2 * (len + 1)) ≤ rest.length - 4)
      (hunits : Decodes room ((units (rest.drop 4)).take len) (.ok cs)) :
      TextRead room rest (.ok (some (String.ofList cs))) (4 + padded (2 * (len + 1)))

/-- How reading an interface token ends, and how many bytes are read. -/
inductive TokenRead (room : Nat) (rest : Bytes) : Except Error String → Nat → Prop
  | short (h : rest.length < 4) : TokenRead room rest (.error .underflow) 0
  | null {n : Nat} (h : 4 ≤ rest.length) (hname : TextRead room (rest.drop 4) (.ok none) n) :
      TokenRead room rest (.error .nullInterfaceToken) 0
  | failed {e : Error} {n : Nat} (h : 4 ≤ rest.length) (hname : TextRead room (rest.drop 4) (.error e) n) :
      TokenRead room rest (.error e) 0
  | name {s : String} {n : Nat} (h : 4 ≤ rest.length) (hname : TextRead room (rest.drop 4) (.ok (some s)) n) :
      TokenRead room rest (.ok s) (4 + n)

/-- The parcel with the cursor of its data area moved on. -/
def skip (p : Parcel) (n : Nat) : Parcel := { p with data := p.data.skip n }

theorem skip_skip (p : Parcel) (m n : Nat) : (p.skip m).skip n = p.skip (m + n) := by
  unfold skip Area.skip
  simp only [Nat.add_assoc]

theorem unread_skip (p : Parcel) (n : Nat) : (p.skip n).data.unread = p.data.unread.drop n := p.data.unread_skip n

variable {p : Parcel} {room len : Nat}

theorem Sound.skip (hp : p.Sound) {n : Nat} (h : n ≤ p.data.unread.length) : (p.skip n).Sound := by
  have hcursor := hp.data.cursor_le
  rw [hp.data.length_unread] at h
  exact ⟨hp.data.skip (by omega), hp.objects⟩

/-! ## Reading one value -/

theorem readData_inside (hp : p.Sound) (h : padded len ≤ p.data.unread.length) :
    (readData len).on p = (.ok (p.data.unread.take len), p.skip (padded len)) := by
  have hcursor := hp.data.cursor_le
  rw [hp.data.length_unread] at h
  unfold readData onData
  rw [Attempt.on_inside, Area.take_inside (by omega)]
  rfl

theorem readData_beyond (hp : p.Sound) (h : p.data.unread.length < padded len) :
    (readData len).on p = (.error .underflow, p) := by
  rw [hp.data.length_unread] at h
  unfold readData onData
  rw [Attempt.on_inside, Area.take_beyond (by omega)]

theorem readInt32_inside (hp : p.Sound) (h : 4 ≤ p.data.unread.length) :
    readInt32.on p = (.ok (Bytes.toUInt32 p.data.unread).toInt32, p.skip 4) := by
  have hword : Bytes.toUInt32 (p.data.unread.take 4) = Bytes.toUInt32 p.data.unread := by
    unfold Bytes.toUInt32
    rw [List.take_take, Nat.min_self]
  have hread : (readData 4).on p = (.ok (p.data.unread.take 4), p.skip 4) := readData_inside hp h
  unfold readInt32 readUInt32
  rw [Attempt.on_map, Attempt.on_map, hread, ← hword]
  rfl

theorem readInt32_beyond (hp : p.Sound) (h : p.data.unread.length < 4) : readInt32.on p = (.error .underflow, p) := by
  have hread : (readData 4).on p = (.error .underflow, p) := readData_beyond hp h
  unfold readInt32 readUInt32
  rw [Attempt.on_map, Attempt.on_map, hread]
  rfl

theorem lengthOf_negative {v : Int32} (h : v.toInt < 0) : lengthOf v = .error .invalidLength := if_pos h

theorem lengthOf_natCast {v : Int32} (h : v.toInt = len) : lengthOf v = .ok len := by
  unfold lengthOf
  rw [h, if_neg (by omega), Int.toNat_natCast]

theorem units_take : ∀ (n : Nat) (bs : Bytes), units (bs.take (2 * n)) = (units bs).take n
  | 0, bs => by simp [units]
  | n + 1, [] => by simp [units]
  | n + 1, [b] => by simp [units, Nat.mul_add]
  | n + 1, a :: b :: bs => by
    show units ((a :: b :: bs).take (2 * n + 2)) = _
    rw [List.take_succ_cons, List.take_succ_cons, units, units, List.take_succ_cons, units_take n bs]

/-! ## Reading a text -/

theorem readString16_short (hp : p.Sound) (h : p.data.unread.length < 4) :
    (readString16 room).on p = (.error .underflow, p) := by
  unfold readString16
  rw [Attempt.on_atomically, Attempt.on_bind, readInt32_beyond hp h]

theorem readString16_null (hp : p.Sound) (h : 4 ≤ p.data.unread.length) (hlen : leading p.data.unread = -1) :
    (readString16 room).on p = (.ok none, p.skip 4) := by
  have hnull : (Bytes.toUInt32 p.data.unread).toInt32 = -1 := Int32.toInt_inj.1 hlen
  unfold readString16
  rw [Attempt.on_atomically, Attempt.on_bind, readInt32_inside hp h]
  simp only [hnull, if_true, Attempt.on_pure]

theorem readString16_negative (hp : p.Sound) (h : 4 ≤ p.data.unread.length) (hneg : leading p.data.unread < 0)
    (hlen : leading p.data.unread ≠ -1) : (readString16 room).on p = (.error .invalidLength, p) := by
  have hsome : (Bytes.toUInt32 p.data.unread).toInt32 ≠ -1 := fun heq => hlen (by rw [leading, heq]; rfl)
  unfold readString16
  rw [Attempt.on_atomically, Attempt.on_bind, readInt32_inside hp h]
  simp only [hsome, if_false, Attempt.on_bind, Attempt.on_ofExcept, lengthOf_negative hneg]

/-- **Behind a length** the reader takes the units, and decodes all of them but the last. -/
theorem readString16_length (hp : p.Sound) (h : 4 ≤ p.data.unread.length) (hlen : leading p.data.unread = len) :
    (readString16 room).on p =
      if p.data.unread.length - 4 < padded (2 * (len + 1)) then (.error .underflow, p)
      else match decodeText room ((units (p.data.unread.drop 4)).take len) with
        | .ok s => (.ok (some s), p.skip (4 + padded (2 * (len + 1))))
        | .error e => (.error e, p) := by
  have hsome : (Bytes.toUInt32 p.data.unread).toInt32 ≠ -1 := by
    intro heq
    rw [leading, heq] at hlen
    have hminus : (-1 : Int) = len := hlen
    omega
  have hp' := hp.skip h
  have hrest : (p.skip 4).data.unread.length = p.data.unread.length - 4 := by rw [unread_skip, List.length_drop]
  unfold readString16
  rw [Attempt.on_atomically, Attempt.on_bind, readInt32_inside hp h]
  simp only [hsome, if_false, Attempt.on_bind, Attempt.on_ofExcept, lengthOf_natCast hlen]
  by_cases hcut : p.data.unread.length - 4 < padded (2 * (len + 1))
  · rw [if_pos hcut, readData_beyond hp' (hrest ▸ hcut)]
  · have hunits : ((p.skip 4).data.unread.take (textSize len)).take (2 * len) = (p.data.unread.drop 4).take (2 * len) := by
      rw [unread_skip, List.take_take, Nat.min_eq_left]
      unfold textSize
      omega
    rw [if_neg hcut, readData_inside hp' (hrest ▸ Nat.le_of_not_lt hcut)]
    simp only [hunits, units_take, skip_skip]
    cases decodeText room ((units (p.data.unread.drop 4)).take len) <;> rfl

theorem decodeText_of_decodes {us : List UInt16} {r : Except Text.Utf16Error (List Char)} : Decodes room us r →
    decodeText room us = match r with
      | .ok cs => .ok (String.ofList cs)
      | .error .unpairedSurrogate => .error .invalidString
      | .error .noRoom => .error .stringTooLong := by
  intro h
  obtain rfl := h.decode_eq
  rfl

theorem TextRead.run {r : Except Error (Option String)} {n : Nat} (hp : p.Sound) (h : TextRead room p.data.unread r n) :
    (readString16 room).on p = (r, p.skip n) := by
  cases h with
  | short h => exact readString16_short hp h
  | null h hlen => exact readString16_null hp h hlen
  | negative h hneg hlen => exact readString16_negative hp h hneg hlen
  | truncated h hlen hcut =>
    rw [readString16_length hp h hlen, if_pos hcut]
    rfl
  | invalid h hlen hfit hunits =>
    rw [readString16_length hp h hlen, if_neg (Nat.not_lt.2 hfit), decodeText_of_decodes hunits]
    rfl
  | tooLong h hlen hfit hunits =>
    rw [readString16_length hp h hlen, if_neg (Nat.not_lt.2 hfit), decodeText_of_decodes hunits]
    rfl
  | text h hlen hfit hunits =>
    rw [readString16_length hp h hlen, if_neg (Nat.not_lt.2 hfit), decodeText_of_decodes hunits]

theorem exists_textRead (room : Nat) (rest : Bytes) : ∃ r n, TextRead room rest r n := by
  rcases Nat.lt_or_ge rest.length 4 with hshort | hlong
  · exact ⟨_, _, .short hshort⟩
  by_cases hnull : leading rest = -1
  · exact ⟨_, _, .null hlong hnull⟩
  by_cases hneg : leading rest < 0
  · exact ⟨_, _, .negative hlong hneg hnull⟩
  obtain ⟨len, hlen⟩ := Int.eq_ofNat_of_zero_le (Int.not_lt.1 hneg)
  rcases Nat.lt_or_ge (rest.length - 4) (padded (2 * (len + 1))) with hcut | hfit
  · exact ⟨_, _, .truncated hlong hlen hcut⟩
  obtain ⟨r, hunits⟩ := Text.Utf16.exists_decodes room ((units (rest.drop 4)).take len)
  match r, hunits with
  | .ok cs, hunits => exact ⟨_, _, .text hlong hlen hfit hunits⟩
  | .error .unpairedSurrogate, hunits => exact ⟨_, _, .invalid hlong hlen hfit hunits⟩
  | .error .noRoom, hunits => exact ⟨_, _, .tooLong hlong hlen hfit hunits⟩

/-! ## Reading an interface token -/

theorem readInterfaceToken_short (hp : p.Sound) (h : p.data.unread.length < 4) :
    (readInterfaceToken room).on p = (.error .underflow, p) := by
  rw [readInterfaceToken_eq, Attempt.on_atomically, Attempt.on_bind, readInt32_beyond hp h]

/-- **Behind its marker** the reader reads a text, and takes the marker back too if it cannot use what it reads. -/
theorem readInterfaceToken_inside {r : Except Error (Option String)} {n : Nat} (hp : p.Sound)
    (h : 4 ≤ p.data.unread.length) : TextRead room (p.data.unread.drop 4) r n →
    (readInterfaceToken room).on p = match r with
      | .ok (some s) => (.ok s, p.skip (4 + n))
      | .ok none => (.error .nullInterfaceToken, p)
      | .error e => (.error e, p) := by
  intro hname
  rw [← unread_skip] at hname
  rw [readInterfaceToken_eq, Attempt.on_atomically, Attempt.on_bind, readInt32_inside hp h]
  simp only [Attempt.on_bind, hname.run (hp.skip h), skip_skip]
  match r with
  | .ok (some s) => rfl
  | .ok none => rfl
  | .error e => rfl

theorem TokenRead.run {r : Except Error String} {n : Nat} (hp : p.Sound) (h : TokenRead room p.data.unread r n) :
    (readInterfaceToken room).on p = (r, p.skip n) := by
  cases h with
  | short h => exact readInterfaceToken_short hp h
  | null h hname => exact readInterfaceToken_inside hp h hname
  | failed h hname => exact readInterfaceToken_inside hp h hname
  | name h hname => exact readInterfaceToken_inside hp h hname

theorem exists_tokenRead (room : Nat) (rest : Bytes) : ∃ r n, TokenRead room rest r n := by
  rcases Nat.lt_or_ge rest.length 4 with hshort | hlong
  · exact ⟨_, _, .short hshort⟩
  obtain ⟨r, n, hname⟩ := exists_textRead room (rest.drop 4)
  match r, hname with
  | .ok none, hname => exact ⟨_, _, .null hlong hname⟩
  | .ok (some s), hname => exact ⟨_, _, .name hlong hname⟩
  | .error e, hname => exact ⟨_, _, .failed hlong hname⟩

/-- A reader that runs as a relation says, which has an outcome for every parcel, does that and nothing else. -/
theorem on_eq_iff {α : Type} {x : Attempt Parcel Error α} {T : Except Error α → Nat → Prop} (htotal : ∃ r n, T r n)
    (hrun : ∀ r n, T r n → x.on p = (r, p.skip n)) (r : Except Error α) (p' : Parcel) :
    x.on p = (r, p') ↔ ∃ n, T r n ∧ p' = p.skip n := by
  constructor
  · intro h
    obtain ⟨r', n, hread⟩ := htotal
    rw [hrun r' n hread] at h
    cases h
    exact ⟨n, hread, rfl⟩
  · rintro ⟨n, hread, rfl⟩
    exact hrun r n hread

/-- **What the readers of texts accept.**  In a sound parcel, as every reachable one is, a text and an interface token are
read exactly as the unread bytes say, and what is read is skipped; a reader that fails skips nothing. -/
theorem text_grammar (hp : p.Sound) (room : Nat) :
    (∀ r p', (readString16 room).on p = (r, p') ↔ ∃ n, TextRead room p.data.unread r n ∧ p' = p.skip n) ∧
      ∀ r p', (readInterfaceToken room).on p = (r, p') ↔ ∃ n, TokenRead room p.data.unread r n ∧ p' = p.skip n := by
  constructor
  · exact on_eq_iff (exists_textRead room _) fun r n h => h.run hp
  · exact on_eq_iff (exists_tokenRead room _) fun r n h => h.run hp

/-- A character outside the first plane is two units and four bytes; as an interface token the same bytes have a length
that is negative. -/
theorem text_grammar_pair :
    let p := ((perform (.writeData [2, 0, 0, 0, 0x3D, 0xD8, 0, 0xDE, 0, 0, 0, 0])).on .empty).2
    p.Sound ∧ (readString16 4).on p = (.ok (some "😀"), p.skip 12) ∧
      (readString16 3).on p = (.error .stringTooLong, p) ∧ (readInterfaceToken 4).on p = (.error .invalidLength, p) := by
  intro p
  have hp : p.Sound := (Reachable.step .fresh _).sound
  have hlong : 4 ≤ p.data.unread.length := by decide +kernel
  have hlen : leading p.data.unread = (2 : Nat) := by decide +kernel
  have hfit : padded (2 * (2 + 1)) ≤ p.data.unread.length - 4 := by decide +kernel
  have hunits : (units (p.data.unread.drop 4)).take 2 = encode ['😀'] := by decide +kernel
  have htext : Decodes 4 ((units (p.data.unread.drop 4)).take 2) (.ok ['😀']) := hunits ▸ .text (by decide +kernel)
  have hfull : Decodes 3 ((units (p.data.unread.drop 4)).take 2) (.error .noRoom) := by
    rw [hunits, ← List.append_nil (encode _)]
    exact .of_lt_size (by decide +kernel) []
  have hnegative : TextRead 4 (p.data.unread.drop 4) (.error .invalidLength) 0 :=
    .negative (by decide +kernel) (by decide +kernel) (by decide +kernel)
  refine ⟨hp, ((text_grammar hp 4).1 _ _).2 ⟨12, .text hlong hlen hfit htext, rfl⟩,
    ((text_grammar hp 3).1 _ _).2 ⟨0, .tooLong hlong hlen hfit hfull, rfl⟩,
    ((text_grammar hp 4).2 _ _).2 ⟨0, .failed hlong hnegative, rfl⟩⟩

end Parcel
end HorizonIpc
