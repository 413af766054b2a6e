/-!
# Bits — fields packed into one word

A record of the protocol cuts a word into fields that lie side by side from bit 0 up.  `pack` puts the fields
together and `field` cuts one out again; a field that stands behind `done` and before the rest is cut out as it was
put in (`field_pack`).
-/
namespace HorizonIpc
namespace Bits

/-- One field: its width and its value. -/
abbrev Field := (width : Nat) × BitVec width

/-- The fields side by side, the first at bit 0. -/
def pack : List Field → Nat
  | [] => 0
  | f :: rest => f.2.toNat + (pack rest <<< f.1)

/-- The bits that a list of fields takes. -/
def width : List Field → Nat
  | [] => 0
  | f :: rest => f.1 + width rest

/-- The field of `size` bits at bit `low` of a word. -/
def field (word low size : Nat) : BitVec size :=
  BitVec.ofNat size (word >>> low)

def ofBool (b : Bool) : BitVec 1 := BitVec.ofBool b

def toBool (b : BitVec 1) : Bool := b != 0

/-- A number as a field, refused if the field is too narrow for it. -/
def fit? (size v : Nat) : Option (BitVec size) :=
  let bits := BitVec.ofNat size v
  if bits.toNat = v then some bits else none

/-- **The fields stay inside the bits they take.** -/
theorem pack_lt : ∀ fs : List Field, pack fs < 1 <<< width fs
  | [] => by simp [pack, width]
  | f :: rest => by
    have ih := pack_lt rest
    have hf := f.2.isLt
    rw [Nat.one_shiftLeft] at ih ⊢
    rw [pack, width, Nat.pow_add, Nat.shiftLeft_eq, Nat.mul_comm]
    have := Nat.mul_le_mul_left (2 ^ f.1) (Nat.succ_le_of_lt ih)
    rw [Nat.succ_eq_add_one, Nat.mul_add] at this
    omega

/-- **A field is cut out as it was put in.** -/
theorem field_pack : ∀ (done : List Field) (f : Field) (rest : List Field),
    field (pack (done ++ f :: rest)) (width done) f.1 = f.2
  | [], f, rest => by
    apply BitVec.eq_of_toNat_eq
    have hf := f.2.isLt
    simp only [List.nil_append, pack, width, field, Nat.shiftRight_zero, BitVec.toNat_ofNat, Nat.shiftLeft_eq,
      Nat.add_mul_mod_self_right]
    exact Nat.mod_eq_of_lt hf
  | g :: done, f, rest => by
    have hg := g.2.isLt
    have hpos : 0 < 2 ^ g.1 := Nat.two_pow_pos _
    have hshift : pack (g :: done ++ f :: rest) >>> width (g :: done) =
        pack (done ++ f :: rest) >>> width done := by
      rw [List.cons_append, pack, width, Nat.shiftRight_add]
      rw [Nat.shiftRight_eq_div_pow _ g.1, Nat.shiftLeft_eq, Nat.add_mul_div_right _ _ hpos,
        Nat.div_eq_of_lt hg, Nat.zero_add]
    rw [field, hshift]
    exact field_pack done f rest

theorem toBool_ofBool (b : Bool) : toBool (ofBool b) = b := by cases b <;> rfl

end Bits
end HorizonIpc
