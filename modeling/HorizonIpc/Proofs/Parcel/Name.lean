import HorizonIpc.Parcel.Basic
import HorizonIpc.Proofs.Bytes.Word
import HorizonIpc.Proofs.Text.Latin
/-!
# Proofs.Parcel.Name — the units of a text are read back as its bytes

A text is written with one unit for each UTF-8 byte and read back as UTF-16.  So what is read is the text with those
bytes as characters, if there is room for it (`decodeText_widen`); for a name in ASCII that is the name.
-/
namespace HorizonIpc
namespace Parcel

open Text (ofAscii latinSize byteChar)
open Text.Utf16 (units)

theorem length_widen : ∀ bs : Bytes, (widen bs).length = 2 * bs.length
  | [] => rfl
  | b :: bs => by
    have ih := length_widen bs
    show (widen bs).length + 2 = 2 * (bs.length + 1)
    omega

theorem units_widen : ∀ bs : Bytes, units (widen bs) = bs.map fun b => UInt16.ofNat b.toNat
  | [] => rfl
  | b :: bs => by
    have ih := units_widen bs
    have hword : Bytes.toUInt16 [b, 0] = UInt16.ofNat b.toNat := by
      show UInt16.ofNat (b.toNat + 256 * (0 + 256 * 0)) = _
      rfl
    show Bytes.toUInt16 [b, 0] :: units (widen bs) = _
    rw [hword, ih, List.map_cons]

/-- **The units of a byte string** are read as the text with those bytes as characters, if there is room for it. -/
theorem decodeText_widen (bs : Bytes) (room : Nat) : decodeText room (units (widen bs)) =
    if latinSize bs ≤ room then .ok (ofAscii bs) else .error .stringTooLong := by
  unfold decodeText
  rw [units_widen, ← Text.encode_byteChar, Text.Utf16.decode_encode, Text.size_byteChar]
  by_cases hroom : latinSize bs ≤ room
  · rw [if_pos hroom, if_pos hroom, Text.ofAscii_eq]
  · rw [if_neg hroom, if_neg hroom]

end Parcel
end HorizonIpc
