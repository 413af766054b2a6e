import HorizonIpc.Proofs.Parcel.Atomicity
import HorizonIpc.Proofs.Parcel.TextGrammar
/-!
# Proofs.Parcel.Widening — what becomes of any text that is written and read

A text need not be ASCII to be written, and it is not refused when it is read: what is read is the text with its UTF-8
bytes as characters, which takes up to twice the room (`widening`).  So only an ASCII text is read as it was written.
-/
namespace HorizonIpc
namespace Parcel

open Bytes (zeros ofNatLE)
open Text (IsAscii utf8 ofAscii latinSize)
open Text.Utf16 (units)

/-- A text of the given bytes in a parcel: their number, a unit for each, a unit of zero, and zeros up to a multiple of
four. -/
def wideImage (bs : Bytes) : Bytes :=
  ofNatLE 4 bs.length ++ bs.flatMap (fun b => ofNatLE 2 b.toNat) ++ zeros 2 ++
    zeros (padded (2 * (bs.length + 1)) - 2 * (bs.length + 1))

/-- The parcel with nothing left to be read of its data. -/
def finish (p : Parcel) : Parcel := { p with data := { p.data with cursor := p.data.extent } }

variable {p : Parcel} {s : String}

theorem widen_eq (bs : Bytes) : widen bs = bs.flatMap fun b => ofNatLE 2 b.toNat := by
  unfold widen
  congr 1
  funext b
  have hzero : b.toNat / 256 = 0 := Nat.div_eq_of_lt b.toNat_lt
  rw [ofNatLE, hzero, UInt8.ofNat_toNat]
  rfl

/-- **A text is written** as its image: no length that a parcel can hold is too long for its word. -/
theorem textImage_eq (h : (utf8 s).length ≤ capacity) : textImage s = wideImage (utf8 s) := by
  have hword : (Int32.ofNat (utf8 s).length).toUInt32.toNat = (utf8 s).length :=
    UInt32.toNat_ofNat_of_lt' (Nat.lt_of_le_of_lt h (by decide))
  unfold textImage wideImage pad
  rw [Bytes.ofUInt32, hword, length_units, ← widen_eq]
  simp only [List.append_assoc]
  rfl

/-! ## The text in front of the unread bytes -/

theorem leading_textImage (h : (utf8 s).length ≤ capacity) : leading (textImage s) = (utf8 s).length := by
  have hlen : (Int32.ofNat (utf8 s).length).toInt = (utf8 s).length :=
    Int32.toInt_ofNat_of_lt (Nat.lt_of_le_of_lt h (by decide))
  unfold leading textImage
  rw [Bytes.toUInt32_ofUInt32]
  exact hlen

theorem units_textImage (s : String) : (units ((textImage s).drop 4)).take (utf8 s).length = units (widen (utf8 s)) := by
  have hfront : ((textImage s).drop 4).take (2 * (utf8 s).length) = widen (utf8 s) := by
    unfold textImage pad
    rw [Bytes.drop_ofUInt32, List.append_assoc]
    exact List.take_left' (length_widen _)
  rw [← units_take, hfront]

/-- **A text that is all that is unread** is read as its bytes, if there is room for them. -/
theorem readString16_textImage (hp : p.Sound) (hunread : p.data.unread = textImage s) (room : Nat) :
    (readString16 room).on p =
      if latinSize (utf8 s) ≤ room then (.ok (some (ofAscii (utf8 s))), p.finish) else (.error .stringTooLong, p) := by
  have himage := length_textImage s
  have hsize := le_padded (textSize (utf8 s).length)
  have hbound := hp.data.length_unread_le
  have hcursor := hp.data.cursor_le
  have hlen := hp.data.length_unread
  rw [hunread] at hlen hbound
  unfold textSize at himage hsize
  have hlong : 4 ≤ p.data.unread.length := by rw [hunread]; omega
  have hleading : leading p.data.unread = (utf8 s).length := by rw [hunread, leading_textImage (by omega)]
  have hwhole : ¬ (textImage s).length - 4 < padded (2 * ((utf8 s).length + 1)) := by omega
  rw [readString16_length hp hlong hleading, hunread, if_neg hwhole, units_textImage, decodeText_widen]
  by_cases hroom : latinSize (utf8 s) ≤ room
  · have hend : p.data.cursor + (4 + padded (2 * ((utf8 s).length + 1))) = p.data.extent := by omega
    rw [if_pos hroom, if_pos hroom]
    unfold skip Area.skip finish
    rw [hend]
  · rw [if_neg hroom, if_neg hroom]

/-- **What becomes of a text.**  Where all data is read, any text that fits is written as its image.  Read back, it is the
text with its UTF-8 bytes as characters, and nothing is left; a reader with less room than that takes is refused, and
reads nothing.  So a reader with room reads the text that was written exactly if that is ASCII. -/
theorem widening (hp : p.Sound) (hread : p.data.cursor = p.data.extent)
    (hfit : p.data.extent + (4 + padded (2 * ((utf8 s).length + 1))) ≤ capacity) :
    ∃ p', (writeString16 s).on p = (.ok (), p') ∧ Appended .data (wideImage (utf8 s)) p p' ∧
      ∀ room,
        (latinSize (utf8 s) ≤ room → (readString16 room).on p' = (.ok (some (ofAscii (utf8 s))), p'.finish)) ∧
        (room < latinSize (utf8 s) → (readString16 room).on p' = (.error .stringTooLong, p')) ∧
        (latinSize (utf8 s) ≤ room → (((readString16 room).on p').1 = .ok (some s) ↔ IsAscii s)) := by
  have himage := length_textImage s
  have hsize := le_padded (2 * ((utf8 s).length + 1))
  have hroom : (p.half .data).extent + (textImage s).length ≤ capacity := by rw [himage]; exact hfit
  have hrun := (whole_string16 s).grows p hroom
  have hnone : p.data.unread = [] := by
    refine List.eq_nil_of_length_eq_zero ?_
    rw [hp.data.length_unread]
    omega
  have hunread : (p.put .data (p.data.extend (textImage s))).data.unread = textImage s := by
    show (p.data.extend (textImage s)).unread = _
    rw [hp.data.unread_extend hroom, hnone, List.nil_append]
  have hsound : (p.put .data (p.data.extend (textImage s))).Sound := ⟨hp.data.extend hroom, hp.objects⟩
  have hback := readString16_textImage hsound hunread
  refine ⟨_, hrun, ?_, fun room => ⟨fun h => ?_, fun h => ?_, fun h => ?_⟩⟩
  · rw [← textImage_eq (by omega)]
    exact appended_extend hroom
  · exact (hback room).trans (if_pos h)
  · exact (hback room).trans (if_neg (Nat.not_le.2 h))
  · rw [show half p .data = p.data from rfl, hback room, if_pos h, ← Text.ofAscii_utf8_iff]
    exact ⟨fun heq => Option.some.inj (Except.ok.inj heq), fun heq => congrArg (Except.ok ∘ some) heq⟩

/-- A letter with an accent is read as the two letters that its bytes are, and takes four bytes then. -/
theorem widening_accent :
    ∃ p', (writeString16 "é").on .empty = (.ok (), p') ∧
      p'.data.written = [2, 0, 0, 0, 0xC3, 0, 0xA9, 0, 0, 0, 0, 0] ∧
      (readString16 4).on p' = (.ok (some "Ã©"), p'.finish) ∧ (readString16 3).on p' = (.error .stringTooLong, p') ∧
      ((readString16 4).on p').1 ≠ .ok (some "é") := by
  obtain ⟨p', hrun, happended, hback⟩ := widening (s := "é") sound_empty rfl (by decide +kernel)
  refine ⟨p', hrun, ?_, (hback 4).1 (by decide +kernel), (hback 3).2.1 (by decide +kernel), ?_⟩
  · exact happended.written.trans (by decide +kernel)
  · have hletter : ¬ IsAscii "é" := fun h => absurd (h 'é' (by decide +kernel)) (by decide)
    exact mt ((hback 4).2.2 (by decide +kernel)).1 hletter

end Parcel
end HorizonIpc
