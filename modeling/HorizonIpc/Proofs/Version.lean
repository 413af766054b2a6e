import HorizonIpc.Version
import Mathlib.Algebra.Group.Nat.Defs
import Mathlib.Data.Prod.Lex
/-!
# Proofs.Version — how versions are ordered

Of the four bytes of a version's word the lower three are its numbers and the upper one is spare.  Versions are compared
as words, and that is by the spare byte first and by their numbers only then (`le_iff`).  So their numbers order them and
tell them apart exactly if their spare bytes are alike or sort them as their numbers do (`byNumbers_iff`).  A version
made of numbers has nothing spare, and one made of a packed word has what the word has in bits 24 to 30
(`holds_ofParts`, `holds_ofWord`).
-/
namespace HorizonIpc
namespace Version

variable {v a b : Version}

/-- Three numbers, compared one after the other. -/
def triple (major minor patch : ℕ) : ℕ ×ₗ ℕ ×ₗ ℕ := toLex (major, toLex (minor, patch))

def numbers (v : Version) : ℕ ×ₗ ℕ ×ₗ ℕ := triple v.major.toNat v.minor.toNat v.patch.toNat

/-- What the word of a version has above the numbers. -/
def spare (v : Version) : ℕ := v.word.toNat / 2 ^ 24

theorem triple_le_iff {x y z x' y' z' : ℕ} :
    triple x y z ≤ triple x' y' z' ↔ x < x' ∨ x = x' ∧ (y < y' ∨ y = y' ∧ z ≤ z') := by
  unfold triple
  rw [Prod.Lex.toLex_le_toLex, Prod.Lex.toLex_le_toLex]

theorem toNat_byte (w : UInt32) {k : UInt32} (hk : k.toNat < 32) :
    (w >>> k).toUInt8.toNat = w.toNat / 2 ^ k.toNat % 2 ^ 8 := by
  rw [UInt32.toNat_toUInt8, UInt32.toNat_shiftRight, Nat.mod_eq_of_lt hk, Nat.shiftRight_eq_div_pow]

theorem toNat_major (v : Version) : v.major.toNat = v.word.toNat / 2 ^ 16 % 2 ^ 8 := toNat_byte v.word (by decide)

theorem toNat_minor (v : Version) : v.minor.toNat = v.word.toNat / 2 ^ 8 % 2 ^ 8 := toNat_byte v.word (by decide)

theorem toNat_patch (v : Version) : v.patch.toNat = v.word.toNat % 2 ^ 8 := UInt32.toNat_toUInt8 _

/-- A word is the number that its four bytes spell. -/
theorem toNat_word (v : Version) :
    v.word.toNat = v.spare * 2 ^ 24 + v.major.toNat * 2 ^ 16 + v.minor.toNat * 2 ^ 8 + v.patch.toNat := by
  rw [toNat_major, toNat_minor, toNat_patch, spare]
  omega

/-! ## order -/

/-- **Versions are ordered by what is spare, and then by their numbers.** -/
theorem le_iff : a ≤ b ↔ a.spare < b.spare ∨ a.spare = b.spare ∧ a.numbers ≤ b.numbers := by
  have hwords : a ≤ b ↔ a.word.toNat ≤ b.word.toNat := UInt32.le_iff_toNat_le
  have hmajor := a.major.toNat_lt
  have hminor := a.minor.toNat_lt
  have hpatch := a.patch.toNat_lt
  have hmajor' := b.major.toNat_lt
  have hminor' := b.minor.toNat_lt
  have hpatch' := b.patch.toNat_lt
  rw [hwords, toNat_word a, toNat_word b, numbers, numbers, triple_le_iff]
  omega

theorem eq_iff : a = b ↔ a.spare = b.spare ∧ a.numbers = b.numbers := by
  constructor
  · rintro rfl
    exact ⟨rfl, rfl⟩
  · rintro ⟨hspare, hnumbers⟩
    have hab : a ≤ b := le_iff.2 (.inr ⟨hspare, hnumbers.le⟩)
    have hba : b ≤ a := le_iff.2 (.inr ⟨hspare.symm, hnumbers.ge⟩)
    exact congrArg Version.mk (UInt32.le_antisymm hab hba)

/-- **The numbers of two versions order them and tell them apart.** -/
def ByNumbers (a b : Version) : Prop := (a ≤ b ↔ a.numbers ≤ b.numbers) ∧ (a = b ↔ a.numbers = b.numbers)

/-- **Numbers decide exactly if what is spare is alike**, or sorts the versions as their numbers do. -/
theorem byNumbers_iff : a.ByNumbers b ↔ a.spare = b.spare ∨
    a.spare < b.spare ∧ a.numbers < b.numbers ∨ b.spare < a.spare ∧ b.numbers < a.numbers := by
  rw [ByNumbers, le_iff, eq_iff]
  rcases lt_trichotomy a.spare b.spare with h | h | h
  · simp only [h, h.ne, h.not_gt, true_iff, false_and, false_iff, true_and, or_false, false_or]
    exact lt_iff_le_and_ne.symm
  · simp [h]
  · simp only [h, h.ne', h.not_gt, false_or, false_and, false_iff, true_and]
    rw [not_le]
    exact and_iff_left_of_imp fun hlt => hlt.ne'

/-! ## versions that can be made -/

/-- **What a version holds**: its numbers, and what is spare. -/
structure Holds (v : Version) (spare major minor patch : ℕ) : Prop where
  spare : v.spare = spare
  numbers : v.numbers = triple major minor patch

theorem holds_of_toNat {spare major minor patch : ℕ} (hmajor : major < 2 ^ 8) (hminor : minor < 2 ^ 8)
    (hpatch : patch < 2 ^ 8) (h : v.word.toNat = spare * 2 ^ 24 + major * 2 ^ 16 + minor * 2 ^ 8 + patch) :
    v.Holds spare major minor patch := by
  have hspare : v.spare = spare := by rw [Version.spare]; omega
  have hnumbers : v.major.toNat = major ∧ v.minor.toNat = minor ∧ v.patch.toNat = patch := by
    rw [toNat_major, toNat_minor, toNat_patch]
    omega
  obtain ⟨rfl, rfl, rfl⟩ := hnumbers
  exact ⟨hspare, rfl⟩

theorem toNat_shifted (n : UInt8) {k : UInt32} (hk : k.toNat ≤ 24) :
    (n.toUInt32 <<< k).toNat = n.toNat * 2 ^ k.toNat := by
  have hlt : n.toNat * 2 ^ k.toNat < 2 ^ 32 := calc
    n.toNat * 2 ^ k.toNat ≤ n.toNat * 2 ^ 24 := Nat.mul_le_mul_left _ (Nat.pow_le_pow_right (by decide) hk)
    _ < 2 ^ 8 * 2 ^ 24 := Nat.mul_lt_mul_of_pos_right n.toNat_lt (by decide)
  have hk32 : k.toNat % 32 = k.toNat := Nat.mod_eq_of_lt (by omega)
  rw [UInt32.toNat_shiftLeft, UInt8.toNat_toUInt32, hk32, Nat.shiftLeft_eq, Nat.mod_eq_of_lt hlt]

theorem holds_ofParts (major minor patch : UInt8) :
    (ofParts major minor patch).Holds 0 major.toNat minor.toNat patch.toNat := by
  have hminor := minor.toNat_lt
  have hpatch := patch.toNat_lt
  apply holds_of_toNat major.toNat_lt hminor hpatch
  -- the numbers take bits of their own, so that to join them is to add them up
  have hlow : minor.toNat * 2 ^ 8 ||| patch.toNat = minor.toNat * 2 ^ 8 + patch.toNat := by
    rw [← Nat.shiftLeft_eq, Nat.shiftLeft_add_eq_or_of_lt hpatch]
  have hhigh : major.toNat * 2 ^ 16 ||| (minor.toNat * 2 ^ 8 + patch.toNat) =
      major.toNat * 2 ^ 16 + (minor.toNat * 2 ^ 8 + patch.toNat) := by
    rw [← Nat.shiftLeft_eq major.toNat, Nat.shiftLeft_add_eq_or_of_lt (by omega)]
  rw [ofParts, UInt32.toNat_or, UInt32.toNat_or, toNat_shifted major (by decide), toNat_shifted minor (by decide),
    UInt8.toNat_toUInt32, Nat.or_assoc]
  exact (congrArg _ hlow).trans (hhigh.trans (by omega))

theorem holds_ofWord (w : UInt32) :
    (ofWord w).Holds (w.toNat / 2 ^ 24 % 2 ^ 7) (w.toNat / 2 ^ 16 % 2 ^ 8) (w.toNat / 2 ^ 8 % 2 ^ 8)
      (w.toNat % 2 ^ 8) := by
  apply holds_of_toNat (by omega) (by omega) (by omega)
  have hmask : (~~~customBit).toNat = 2 ^ 31 - 1 := rfl
  rw [ofWord, UInt32.toNat_and, hmask, Nat.and_two_pow_sub_one_eq_mod]
  omega

theorem holds_default : (default : Version).Holds 0 0 0 0 := ⟨rfl, rfl⟩

end Version
end HorizonIpc
