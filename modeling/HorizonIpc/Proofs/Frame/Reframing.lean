import HorizonIpc.Proofs.Frame.Framing
/-!
# Proofs.Frame.Reframing — a message is framed again

A message that is accepted can be started again from the shape that it was decoded to, and then it has this shape and
this layout again (`reframe`).  The new headers are the old ones tidied up: what no field covers is zero, a receive mode
that stands for no list is 0, the receive list has no place of its own, and there is a special header only where it
announces something.  Headers that were tidy before are the same bytes.
-/
namespace HorizonIpc

open Bytes (ofNatLE zeros)

namespace Shape

variable {h : Header} {special : SpecialHeader}

/-- **The header of a decoded shape** is the one that it was decoded from, but for what a shape does not tell. -/
theorem header_ofHeaders : (ofHeaders h special).header =
    { h with
      recvListMode := if h.recvListMode = 1 then 0 else h.recvListMode
      recvListOffset := 0
      hasSpecial := (ofHeaders h special).needsSpecial } := by
  have hmode : ∀ b : BitVec 4, BitVec.ofNat 4 (((RecvMode.ofField? b.toNat).map RecvMode.toField).getD 0) =
      if b = 1 then 0 else b := by decide
  simp only [header, ofHeaders, BitVec.ofNat_toNat, BitVec.setWidth_eq, ← hmode h.recvListMode]
  cases RecvMode.ofField? h.recvListMode.toNat <;> rfl

theorem special_ofHeaders (hflag : h.hasSpecial = true) : (ofHeaders h special).special = special := by
  simp [Shape.special, ofHeaders, hflag]

end Shape

namespace Frame

/-- The header of a message as a number. -/
def headerBits (m : Message) : Nat := (m.bytes.window 0 8).toNatLE

/-- What stands in the place of the special header, as a number. -/
def specialBits (m : Message) : Nat := (m.bytes.window 8 4).toNatLE

def tidyMode (mode : Nat) : Nat := if mode = 1 then 0 else mode

/-- A header tidied up: the type and the counts as they are, the receive mode, and the flag. -/
def tidyHeader (bits : Nat) (hasSpecial : Bool) : Nat :=
  bits % 2 ^ 42 + tidyMode (bits / 2 ^ 42 % 2 ^ 4) * 2 ^ 42 + hasSpecial.toNat * 2 ^ 63

/-- Headers in which there is nothing to tidy up. -/
structure Tidy (m : Message) : Prop where
  mode : headerBits m / 2 ^ 42 % 2 ^ 4 ≠ 1
  unused : headerBits m / 2 ^ 46 % 2 ^ 6 = 0
  listOffset : headerBits m / 2 ^ 52 % 2 ^ 11 = 0
  flag : (headerOf m).hasSpecial = true → (specialOf m).announces = true
  specialUnused : (headerOf m).hasSpecial = true → specialBits m / 2 ^ 9 = 0

section bits

variable (m : Message)

theorem headerBits_lt : headerBits m < 2 ^ 64 := by
  have hlt := Bytes.toNatLE_lt (m.bytes.window 0 8)
  rwa [Bytes.length_window (by simp [m.size_eq]), Nat.one_shiftLeft] at hlt

theorem specialBits_lt : specialBits m < 2 ^ 32 := by
  have hlt := Bytes.toNatLE_lt (m.bytes.window 8 4)
  rwa [Bytes.length_window (by simp [m.size_eq]), Nat.one_shiftLeft] at hlt

theorem bytes_eq : m.bytes = ofNatLE 8 (headerBits m) ++ (ofNatLE 4 (specialBits m) ++ m.bytes.drop 12) := by
  have hheader := Bytes.ofNatLE_toNatLE (m.bytes.window 0 8)
  have hspecial := Bytes.ofNatLE_toNatLE (m.bytes.window 8 4)
  rw [Bytes.length_window (by simp [m.size_eq])] at hheader hspecial
  rw [headerBits, specialBits, hheader, hspecial]
  have hrest : m.bytes.drop 8 = m.bytes.window 8 4 ++ m.bytes.drop 12 := by
    rw [← List.take_append_drop 4 (m.bytes.drop 8), List.drop_drop]
    rfl
  rw [← hrest]
  exact (List.take_append_drop 8 m.bytes).symm

theorem hasSpecial_toNat : (headerOf m).hasSpecial.toNat = headerBits m / 2 ^ 63 := by
  have hlt := headerBits_lt m
  show (Bits.toBool (Bits.field (headerBits m) 63 1)).toNat = _
  rw [Bits.toNat_toBool, Bits.toNat_field]
  omega

theorem word_special : (specialOf m).word = specialBits m % 2 ^ 9 := by
  show (SpecialHeader.ofWord (specialBits m)).word = _
  simp only [SpecialHeader.word_eq, SpecialHeader.ofWord, Bits.toNat_toBool, Bits.toNat_field]
  omega

/-- **The header of the shape that a message is decoded to** is the header of the message tidied up. -/
theorem word_header {s : Shape} (hs : s = .ofHeaders (headerOf m) (specialOf m)) :
    s.header.word = tidyHeader (headerBits m) s.needsSpecial := by
  have hmode : ∀ b : BitVec 4, (if b = 1 then 0 else b).toNat = tidyMode b.toNat := by decide
  have hplace : (0 : BitVec 11).toNat = 0 := rfl
  have hword : headerOf m = Header.ofWord (headerBits m) := rfl
  rw [hs, Shape.header_ofHeaders, Header.word_eq]
  simp only [hmode, hplace, hword, Header.ofWord, Bits.toNat_field, Nat.pow_zero, Nat.div_one, tidyHeader]
  omega

end bits

theorem tidyHeader_lt (bits : Nat) (hasSpecial : Bool) : tidyHeader bits hasSpecial < 2 ^ 64 := by
  cases hasSpecial <;> simp only [tidyHeader, tidyMode, Bool.toNat_true, Bool.toNat_false] <;> split <;> omega

theorem tidyHeader_eq_iff {bits : Nat} (_ : bits < 2 ^ 64) (hasSpecial : Bool) :
    tidyHeader bits hasSpecial = bits ↔ bits / 2 ^ 42 % 2 ^ 4 ≠ 1 ∧ bits / 2 ^ 46 % 2 ^ 6 = 0 ∧
      bits / 2 ^ 52 % 2 ^ 11 = 0 ∧ bits / 2 ^ 63 = hasSpecial.toNat := by
  have hflag := Bool.toNat_lt hasSpecial
  have hword : bits = bits % 2 ^ 42 + bits / 2 ^ 42 % 2 ^ 4 * 2 ^ 42 + bits / 2 ^ 46 % 2 ^ 6 * 2 ^ 46 +
      bits / 2 ^ 52 % 2 ^ 11 * 2 ^ 52 + bits / 2 ^ 63 * 2 ^ 63 := by omega
  unfold tidyHeader tidyMode
  split <;> omega

/-- The headers that announce the shape of a message again. -/
def tidyHeaders (m : Message) (s : Shape) : Bytes :=
  ofNatLE 8 (tidyHeader (headerBits m) s.needsSpecial) ++
    if s.needsSpecial then ofNatLE 4 (specialBits m % 2 ^ 9) else []

section tidy

variable {m : Message} {s : Shape}

theorem headers_eq_tidyHeaders (hs : s = .ofHeaders (headerOf m) (specialOf m)) : s.headers = tidyHeaders m s := by
  have hhead : s.header.encode = ofNatLE 8 (tidyHeader (headerBits m) s.needsSpecial) :=
    congrArg (ofNatLE 8) (word_header m hs)
  have hspecial : s.needsSpecial = true → s.special.encode = ofNatLE 4 (specialBits m % 2 ^ 9) := by
    intro hneeds
    have hflag : (headerOf m).hasSpecial = true := by
      rw [hs, Shape.needsSpecial_ofHeaders, Bool.and_eq_true] at hneeds
      exact hneeds.1
    rw [hs, Shape.special_ofHeaders hflag]
    exact congrArg (ofNatLE 4) (word_special m)
  unfold Shape.headers tidyHeaders
  rw [hhead]
  split
  · rw [hspecial ‹_›]
  · rfl

/-- **Headers are written again byte for byte exactly if they are tidy.** -/
theorem take_tidyHeaders_iff (hs : s = .ofHeaders (headerOf m) (specialOf m)) (rest : Bytes) :
    (tidyHeaders m s ++ rest).take (sectionsStart (headerOf m).hasSpecial) =
      m.bytes.take (sectionsStart (headerOf m).hasSpecial) ↔ Tidy m := by
  have hneeds : s.needsSpecial = ((headerOf m).hasSpecial && (specialOf m).announces) := by
    rw [hs, Shape.needsSpecial_ofHeaders]
  have hheader : tidyHeader (headerBits m) s.needsSpecial = headerBits m ↔ _ :=
    tidyHeader_eq_iff (headerBits_lt m) s.needsSpecial
  rw [← hasSpecial_toNat m] at hheader
  have hcut := Bytes.take_ofNatLE_append_iff 8 (tidyHeader_lt (headerBits m) s.needsSpecial) (headerBits_lt m)
    ((if s.needsSpecial then ofNatLE 4 (specialBits m % 2 ^ 9) else []) ++ rest)
    (ofNatLE 4 (specialBits m) ++ m.bytes.drop 12)
  rw [← bytes_eq, ← List.append_assoc] at hcut
  cases hflag : (headerOf m).hasSpecial with
  | false =>
    rw [hflag, Bool.false_and] at hneeds
    refine (hcut 0).trans ?_
    rw [hheader, hneeds, hflag]
    constructor
    · rintro ⟨⟨hmode, hunused, hoffset, -⟩, -⟩
      exact ⟨hmode, hunused, hoffset, by simp [hflag], by simp [hflag]⟩
    · intro htidy
      exact ⟨⟨htidy.mode, htidy.unused, htidy.listOffset, rfl⟩, rfl⟩
  | true =>
    rw [hflag, Bool.true_and] at hneeds
    refine (hcut 4).trans ?_
    rw [hheader, hflag, hneeds]
    cases hsome : (specialOf m).announces with
    | false =>
      -- the flag itself is what is not written again
      constructor
      · rintro ⟨⟨-, -, -, hlost⟩, -⟩
        cases hlost
      · intro htidy
        exact absurd (htidy.flag hflag) (by simp [hsome])
    | true =>
      have hsmall : specialBits m % 2 ^ 9 < 2 ^ (8 * 4) := by omega
      rw [if_pos rfl, Bytes.take_ofNatLE_append_iff 4 hsmall (specialBits_lt m) _ _ 0]
      constructor
      · rintro ⟨⟨hmode, hunused, hoffset, -⟩, hrest, -⟩
        exact ⟨hmode, hunused, hoffset, fun _ => hsome, fun _ => by omega⟩
      · intro htidy
        have hrest := htidy.specialUnused hflag
        exact ⟨⟨htidy.mode, htidy.unused, htidy.listOffset, rfl⟩, by omega, rfl⟩

end tidy

/-- **A message that is accepted can be started again from its shape**, over whatever message, and then it has this
shape and this layout again; its headers are the old ones tidied up, and the same bytes exactly if those were tidy. -/
theorem reframe {m : Message} {v : View} (h : View.ofMessage m = .ok v) (n : Message) :
    ∃ m', (start v.shape).on n = (.ok v.layout, m') ∧ View.ofMessage m' = .ok ⟨m', v.shape, v.layout⟩ ∧
      m'.bytes = tidyHeaders m v.shape ++ zeros (256 - sectionsStart v.shape.needsSpecial) ∧
      (m'.bytes.take (sectionsStart (headerOf m).hasSpecial) = m.bytes.take (sectionsStart (headerOf m).hasSpecial) ↔
        Tidy m) := by
  obtain ⟨hfit, rfl⟩ := View.ofMessage_eq_ok_iff.1 h
  have hann := Shape.announceable_ofHeaders (headerOf m) (specialOf m)
  have hheaders := headers_eq_tidyHeaders (m := m) rfl
  have hbytes := bytes_blank (.ofHeaders (headerOf m) (specialOf m))
  have hview : View.ofMessage (blank (.ofHeaders (headerOf m) (specialOf m))) = _ :=
    View.ofMessage_of_headers ((Shape.validate_iff_announceable _).2 hann) hbytes
      (Nat.le_trans (Nat.le_of_eq (Layout.stop_ofShape _)) hfit)
  rw [Shape.length_headers, hheaders] at hbytes
  refine ⟨_, start_on_iff.2 ⟨⟨hann, hfit⟩, rfl, rfl⟩, hview, hbytes, ?_⟩
  rw [hbytes]
  exact take_tidyHeaders_iff rfl _

/-- A receive mode that stands for no list, a place for it, and bits that no field covers: only the fields come back. -/
theorem reframe_untidy :
    let m := Message.ofBytes (ofNatLE 8 (4 + 2 * 2 ^ 32 + 2 ^ 42 + 3 * 2 ^ 46 + 5 * 2 ^ 52 + 2 ^ 63) ++
      ofNatLE 4 (1 + 7 * 2 ^ 9))
    let s : Shape := { messageType := 4, dataWords := 2, sendPid := true }
    View.ofMessage m = .ok ⟨m, s, .ofShape s⟩ ∧ ∃ m', (start s).on (.filled 0xEE) = (.ok (.ofShape s), m') ∧
      View.ofMessage m' = .ok ⟨m', s, .ofShape s⟩ ∧
      m'.bytes.take 12 = ofNatLE 8 (4 + 2 * 2 ^ 32 + 2 ^ 63) ++ ofNatLE 4 1 ∧ m'.bytes.take 12 ≠ m.bytes.take 12 := by
  intro m s
  have hshape : Shape.ofHeaders (headerOf m) (specialOf m) = s := by decide +kernel
  have hview : View.ofMessage m = .ok ⟨m, s, .ofShape s⟩ :=
    View.ofMessage_eq_ok_iff.2 ⟨by rw [hshape]; decide +kernel, by rw [hshape]⟩
  obtain ⟨m', hstart, hagain, hbytes, -⟩ := reframe hview (.filled 0xEE)
  have hhead : m'.bytes.take 12 = ofNatLE 8 (4 + 2 * 2 ^ 32 + 2 ^ 63) ++ ofNatLE 4 1 := by
    rw [hbytes]
    decide +kernel
  refine ⟨hview, m', hstart, hagain, hhead, ?_⟩
  rw [hhead]
  decide +kernel

end Frame
end HorizonIpc
