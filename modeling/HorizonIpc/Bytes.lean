/-!
# Bytes — lengths in whole units, little-endian words and windows of a byte string

`alignUp u n` is the least multiple of `u` that is not below `n`, and `unitsFor u n` is how many units it takes.

Every record of the protocol is a run of little-endian words at a fixed place of a byte string.  `ofNatLE` and
`toNatLE` convert one word; they are inverse to each other on words of the same width (`toNatLE_ofNatLE`,
`ofNatLE_toNatLE`).  `window` cuts a part out and `overlay` writes a part over, without changing the length
(`length_overlay`).
-/
namespace HorizonIpc

def unitsFor (u n : Nat) : Nat := (n + (u - 1)) / u

/-- `n` rounded up to a multiple of `u`. -/
def alignUp (u n : Nat) : Nat := unitsFor u n * u

theorem le_alignUp {u : Nat} (hu : 0 < u) (n : Nat) : n ≤ alignUp u n := by
  have := Nat.div_add_mod (n + (u - 1)) u
  have hm := Nat.mod_lt (n + (u - 1)) hu
  rw [alignUp, unitsFor, Nat.mul_comm]
  omega

theorem alignUp_lt {u : Nat} (hu : 0 < u) (n : Nat) : alignUp u n < n + u := by
  have := Nat.div_mul_le_self (n + (u - 1)) u
  rw [alignUp, unitsFor]
  omega

theorem alignUp_mod (u n : Nat) : alignUp u n % u = 0 := Nat.mul_mod_left _ _

/-- A byte string. -/
abbrev Bytes := List UInt8

namespace Bytes

/-- The `width` low bytes of a number, least significant first. -/
def ofNatLE : Nat → Nat → Bytes
  | 0, _ => []
  | width + 1, v => UInt8.ofNat v :: ofNatLE width (v / 256)

/-- The number that a byte string spells, least significant byte first. -/
def toNatLE : Bytes → Nat
  | [] => 0
  | b :: rest => b.toNat + 256 * toNatLE rest

/-- Up to `len` bytes from offset `start` on; fewer where the string ends earlier. -/
def window (bs : Bytes) (start len : Nat) : Bytes :=
  (bs.drop start).take len

/-- `bs` with `new` written over it from `start` on; what would lie behind the end is dropped. -/
def overlay (bs : Bytes) (start : Nat) (new : Bytes) : Bytes :=
  bs.take start ++ new.take (bs.length - start) ++ bs.drop (start + new.length)

def ofUInt32 (w : UInt32) : Bytes := ofNatLE 4 w.toNat

def ofUInt64 (w : UInt64) : Bytes := ofNatLE 8 w.toNat

def toUInt16 (bs : Bytes) : UInt16 := UInt16.ofNat (toNatLE (bs.take 2))

def toUInt32 (bs : Bytes) : UInt32 := UInt32.ofNat (toNatLE (bs.take 4))

def toUInt64 (bs : Bytes) : UInt64 := UInt64.ofNat (toNatLE (bs.take 8))

@[simp] theorem length_ofNatLE : ∀ (width v : Nat), (ofNatLE width v).length = width
  | 0, _ => rfl
  | width + 1, v => by rw [ofNatLE, List.length_cons, length_ofNatLE width]

/-- **A byte string spells a number of eight bits a byte.** -/
theorem toNatLE_lt : ∀ bs : Bytes, toNatLE bs < 1 <<< (8 * bs.length)
  | [] => by simp [toNatLE]
  | b :: rest => by
    have ih := toNatLE_lt rest
    have hb : b.toNat < 256 := b.toNat_lt
    rw [Nat.one_shiftLeft] at ih ⊢
    rw [toNatLE, List.length_cons, Nat.mul_succ, Nat.pow_add]
    omega

/-- **Reading undoes writing**, up to the bits that the width drops. -/
theorem toNatLE_ofNatLE : ∀ width v : Nat, toNatLE (ofNatLE width v) = v % (1 <<< (8 * width))
  | 0, v => by simp [ofNatLE, toNatLE, Nat.mod_one]
  | width + 1, v => by
    rw [ofNatLE, toNatLE, toNatLE_ofNatLE width, Nat.one_shiftLeft, Nat.one_shiftLeft, Nat.mul_succ, Nat.pow_add,
      Nat.mul_comm (2 ^ (8 * width)), Nat.mod_mul]
    simp

/-- **Writing undoes reading** at the width of the string read. -/
theorem ofNatLE_toNatLE : ∀ bs : Bytes, ofNatLE bs.length (toNatLE bs) = bs
  | [] => rfl
  | b :: rest => by
    have hb : b.toNat < 256 := b.toNat_lt
    rw [toNatLE, List.length_cons, ofNatLE]
    have hhead : UInt8.ofNat (b.toNat + 256 * toNatLE rest) = b := by
      apply UInt8.toNat.inj
      simp only [UInt8.toNat_ofNat']
      omega
    have hrest : (b.toNat + 256 * toNatLE rest) / 256 = toNatLE rest := by omega
    rw [hhead, hrest, ofNatLE_toNatLE rest]

/-- **Writing over a part keeps the length.** -/
@[simp] theorem length_overlay (bs : Bytes) (start : Nat) (new : Bytes) :
    (overlay bs start new).length = bs.length := by
  simp only [overlay, List.length_append, List.length_take, List.length_drop]
  omega

theorem length_window_le (bs : Bytes) (start len : Nat) : (window bs start len).length ≤ len := by
  simp only [window, List.length_take]
  omega

/-- A window inside the string has its full length. -/
theorem length_window {bs : Bytes} {start len : Nat} (h : start + len ≤ bs.length) :
    (window bs start len).length = len := by
  simp only [window, List.length_take, List.length_drop]
  omega

/-- **A part written inside the string is read back whole.** -/
theorem window_overlay {bs new : Bytes} {start : Nat} (h : start + new.length ≤ bs.length) :
    window (overlay bs start new) start new.length = new := by
  have hs : (bs.take start).length = start := by rw [List.length_take]; omega
  have hn : new.take (bs.length - start) = new := List.take_of_length_le (by omega)
  rw [window, overlay, hn, List.append_assoc, List.drop_append_of_le_length (by omega),
    List.drop_eq_nil_of_le (by omega), List.nil_append, List.take_left']
  rfl

end Bytes
end HorizonIpc
