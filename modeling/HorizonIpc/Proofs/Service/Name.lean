import HorizonIpc.Proofs.Binder.Commands
import HorizonIpc.Proofs.Text.Latin
import Mathlib.Algebra.GroupWithZero.Nat
import Mathlib.Data.List.DropRight
import Mathlib.Data.List.TakeWhile
/-!
# Proofs.Service.Name — a checked name spells its text, and its key is that of no other

A checked name is the bytes of its text with zeros behind them.  None of the bytes is zero, so the text can be told from
the field in every way that a name is looked at, also by a server that is sent the key (`spelling`).
-/
namespace HorizonIpc

open Bytes (zeros)
open Text (utf8 ofAscii isAscii)

/-! ## bytes with zeros behind them -/

namespace Bytes

theorem sum_mapIdx_pow (k : Nat) : ∀ bs : Bytes,
    (bs.mapIdx fun i b => b.toNat * 256 ^ (k + i)).sum = 256 ^ k * toNatLE bs
  | [] => by rw [List.mapIdx_nil, List.sum_nil, toNatLE, Nat.mul_zero]
  | b :: bs => by
    have hshift : (fun i (b : UInt8) => b.toNat * 256 ^ (k + (i + 1))) = fun i b => b.toNat * 256 ^ (k + 1 + i) := by
      funext i b
      rw [Nat.add_comm i, Nat.add_assoc]
    rw [List.mapIdx_cons, List.sum_cons, hshift, sum_mapIdx_pow (k + 1) bs, toNatLE, Nat.mul_add, Nat.add_zero,
      Nat.mul_comm b.toNat, Nat.pow_succ, Nat.mul_assoc]

/-- **The number that a byte string spells** is a sum over its bytes. -/
theorem toNatLE_eq_sum (bs : Bytes) : toNatLE bs = (bs.mapIdx fun i b => b.toNat * 256 ^ i).sum := by
  have hsum := sum_mapIdx_pow 0 bs
  simp only [Nat.zero_add, Nat.pow_zero, Nat.one_mul] at hsum
  exact hsum.symm

theorem toNatLE_append_zeros (n : Nat) : ∀ bs : Bytes, toNatLE (bs ++ zeros n) = toNatLE bs
  | [] => by
    induction n with
    | zero => rfl
    | succ n ih =>
      show 0 + 256 * toNatLE ([] ++ zeros n) = 0
      rw [ih]
      rfl
  | b :: bs => by rw [List.cons_append, toNatLE, toNatLE_append_zeros n bs, toNatLE]

/-- **Up to the first zero**, the zeros at the end do not count. -/
theorem takeWhile_append_zeros (bs : Bytes) (n : Nat) :
    (bs ++ zeros n).takeWhile (· != 0) = bs.takeWhile (· != 0) := by
  have hzeros : (zeros n).takeWhile (· != 0) = [] := by rw [zeros, List.takeWhile_replicate, if_neg (by decide)]
  rw [List.takeWhile_append, hzeros, List.append_nil]
  split
  · exact ((List.takeWhile_prefix _).eq_of_length ‹_›).symm
  · rfl

/-- **The zeros at the end stripped**: what ends in no zero is left. -/
theorem rdropWhile_append_zeros {bs : Bytes} (h : 0 ∉ bs) : ∀ n : Nat, (bs ++ zeros n).rdropWhile (· == 0) = bs
  | 0 => by
    rw [zeros, List.replicate_zero, List.append_nil]
    refine List.rdropWhile_eq_self_iff.2 fun hne hlast => h ?_
    rw [← eq_of_beq hlast]
    exact List.getLast_mem hne
  | n + 1 => by
    rw [zeros_add n 1, ← List.append_assoc]
    exact (List.rdropWhile_concat_pos _ _ _ rfl).trans (rdropWhile_append_zeros h n)

end Bytes

namespace ServiceName

variable {n n' : ServiceName} {bs : Bytes} {s : String}

/-! ## the field of a name -/

theorem ext_bytes (h : n.bytes = n'.bytes) : n = n' := by
  cases n
  cases n'
  cases h
  rfl

theorem bytes_ofBytes (h : bs.length ≤ 8) : (ofBytes bs).bytes = bs ++ zeros (8 - bs.length) := by
  show bs.take 8 ++ zeros (8 - bs.length) = _
  rw [List.take_of_length_le h]

theorem ofUInt64_key (n : ServiceName) : Bytes.ofUInt64 n.key = n.bytes := Bytes.ofUInt64_toUInt64 n.size_eq

/-- **The key tells the whole field.** -/
theorem key_inj : n.key = n'.key ↔ n = n' := by
  refine ⟨fun h => ext_bytes ?_, fun h => congrArg key h⟩
  rw [← ofUInt64_key n, h, ofUInt64_key]

theorem toNat_key (n : ServiceName) : n.key.toNat = Bytes.toNatLE n.bytes := by
  have hlt := Bytes.toNatLE_lt n.bytes
  rw [n.size_eq, Nat.one_shiftLeft] at hlt
  unfold key Bytes.toUInt64
  rw [List.take_of_length_le (Nat.le_of_eq n.size_eq)]
  exact UInt64.toNat_ofNat_of_lt' hlt

theorem textBytes_ofBytes (h : bs.length ≤ 8) : (ofBytes bs).textBytes = bs.takeWhile (· != 0) := by
  unfold textBytes
  rw [bytes_ofBytes h, Bytes.takeWhile_append_zeros]

theorem isEmpty_iff (n : ServiceName) : n.isEmpty = true ↔ n.textBytes = [] := by
  obtain ⟨_ | ⟨b, bs⟩, hsize⟩ := n
  · cases hsize
  · by_cases hb : b = 0
    · simp [isEmpty, textBytes, hb]
    · simp [isEmpty, textBytes, hb]

/-! ## checked names -/

/-- The bytes of a text that is a name as it is: no more than eight, none of them zero or beyond ASCII. -/
structure Plain (bs : Bytes) : Prop where
  length_le : bs.length ≤ 8
  range : ∀ b ∈ bs, 1 ≤ b.toNat ∧ b.toNat ≤ 127

theorem Plain.isAscii (h : Plain bs) : ∀ b ∈ bs, isAscii b := fun b hb =>
  Text.isAscii_iff.2 (Nat.lt_succ_of_le (h.range b hb).2)

theorem Plain.zero_not_mem (h : Plain bs) : 0 ∉ bs := fun hb => absurd (h.range 0 hb).1 (by decide)

theorem Plain.textBytes (h : Plain bs) : (ofBytes bs).textBytes = bs := by
  rw [textBytes_ofBytes h.length_le, List.takeWhile_eq_self_iff]
  intro b hb
  exact bne_iff_ne.2 fun hzero => h.zero_not_mem (hzero ▸ hb)

theorem plain_iff (bs : Bytes) : Plain bs ↔ bs.length ≤ maxLength ∧ bs.all (fun b => Text.isAscii b && b != 0) := by
  have hbyte : ∀ b : UInt8, (Text.isAscii b && b != 0) = true ↔ 1 ≤ b.toNat ∧ b.toNat ≤ 127 := by
    intro b
    have hzero : b ≠ 0 ↔ b.toNat ≠ 0 := not_congr UInt8.toNat_inj.symm
    rw [Bool.and_eq_true, Text.isAscii_iff, bne_iff_ne, hzero]
    omega
  simp only [List.all_eq_true, hbyte]
  exact ⟨fun h => ⟨h.length_le, h.range⟩, fun h => ⟨h.1, h.2⟩⟩

theorem ofString?_eq_some_iff : ofString? s = some n ↔ Plain (utf8 s) ∧ n = ofBytes (utf8 s) := by
  unfold ofString?
  dsimp only
  by_cases hplain : Plain (utf8 s)
  · rw [if_pos ((plain_iff _).1 hplain)]
    exact ⟨fun h => ⟨hplain, (Option.some.inj h).symm⟩, fun h => congrArg some h.2.symm⟩
  · rw [if_neg (mt (plain_iff _).2 hplain)]
    exact ⟨nofun, fun h => absurd h.1 hplain⟩

/-- **A name spells a text** in each way that a name is looked at: as a text, by its length and whether it is empty, by
its key, and by what a server makes of the lookup that is sent for it. -/
structure Spells (n : ServiceName) (s : String) : Prop where
  text : n.text = s
  length : n.length = (utf8 s).length
  isEmpty : n.isEmpty = true ↔ s = ""
  key : n.key.toNat = ((utf8 s).mapIdx fun i b => b.toNat * 256 ^ i).sum
  looked_up : ∀ service : NameService, (service.lookup n).SendsOne service.service.session []
    (·.Asks .request 1 (fun arguments => 8 ≤ arguments.length ∧ (arguments.take 8).rdropWhile (· == 0) = utf8 s) {})
    fun r => ∀ e, r ≠ .error (.call (.build e))

theorem spells_ofBytes (h : Plain (utf8 s)) : (ofBytes (utf8 s)).Spells s := by
  have hbytes := bytes_ofBytes h.length_le
  have htext : (ofBytes (utf8 s)).text = s := by
    unfold text
    rw [h.textBytes]
    exact Text.ofAscii_utf8 (Text.isAscii_of_bytes h.isAscii)
  refine { text := htext, length := congrArg List.length h.textBytes, isEmpty := ?_, key := ?_, looked_up := ?_ }
  · rw [isEmpty_iff, h.textBytes]
    constructor
    · intro hnone
      rw [← Text.ofAscii_utf8 (Text.isAscii_of_bytes h.isAscii), hnone]
      rfl
    · rintro rfl
      rfl
  · rw [toNat_key, hbytes, Bytes.toNatLE_append_zeros, Bytes.toNatLE_eq_sum]
  · intro service
    refine Call.sendsOne_of_eq ?_ (NameService.foundSession_ne_build (NameService.lookupCall _)) (service.lookup_eq _)
    refine Call.asks_of_laidOut (NameService.laidOut_lookupCall _) nofun rfl ?_ nofun
    intro arguments hkey
    refine ⟨hkey.length_le, ?_⟩
    obtain ⟨rest, rfl⟩ := hkey
    have hfield : (Bytes.ofUInt64 (ofBytes (utf8 s)).key ++ rest).take 8 = utf8 s ++ zeros (8 - (utf8 s).length) := by
      rw [List.take_left' (Bytes.length_ofUInt64 _), ofUInt64_key, hbytes]
    exact (congrArg (List.rdropWhile (· == 0)) hfield).trans (Bytes.rdropWhile_append_zeros h.zero_not_mem _)

/-- **A checked name spells its text, and its key is that of no other.**  A text is a name exactly if it has at most
eight bytes, each from 1 to 127; then the name spells it, and has the key of another checked name exactly if that is one
of the same text. -/
theorem spelling (s : String) :
    ((∃ n, ofString? s = some n) ↔ (utf8 s).length ≤ 8 ∧ ∀ b ∈ utf8 s, 1 ≤ b.toNat ∧ b.toNat ≤ 127) ∧
      ∀ n, ofString? s = some n → n.Spells s ∧
        ∀ s' n', ofString? s' = some n' → (n.key = n'.key ↔ s = s') := by
  refine ⟨⟨?_, fun h => ⟨_, ofString?_eq_some_iff.2 ⟨⟨h.1, h.2⟩, rfl⟩⟩⟩, fun n hn => ?_⟩
  · rintro ⟨n, hn⟩
    have hplain := (ofString?_eq_some_iff.1 hn).1
    exact ⟨hplain.length_le, hplain.range⟩
  obtain ⟨hplain, rfl⟩ := ofString?_eq_some_iff.1 hn
  have hspells := spells_ofBytes hplain
  refine ⟨hspells, fun s' n' hn' => ?_⟩
  obtain ⟨hplain', rfl⟩ := ofString?_eq_some_iff.1 hn'
  rw [key_inj]
  constructor
  · intro heq
    rw [← hspells.text, heq, (spells_ofBytes hplain').text]
  · rintro rfl
    rfl

/-- A name that fills the field has another key than the name that it begins with; a zero at its end is refused. -/
theorem spelling_full :
    ∃ n n', ofString? "nvdrv:sy" = some n ∧ ofString? "nvdrv" = some n' ∧ n.Spells "nvdrv:sy" ∧ n.key ≠ n'.key ∧
      ¬ ∃ n, ofString? "dispdrv\x00" = some n := by
  obtain ⟨n, hn⟩ := (spelling "nvdrv:sy").1.2 (by decide +kernel)
  obtain ⟨n', hn'⟩ := (spelling "nvdrv").1.2 (by decide +kernel)
  obtain ⟨hspells, hkey⟩ := (spelling "nvdrv:sy").2 n hn
  exact ⟨n, n', hn, hn', hspells, mt (hkey _ n' hn').1 (by decide), mt (spelling "dispdrv\x00").1.1 (by decide +kernel)⟩

end ServiceName
end HorizonIpc
