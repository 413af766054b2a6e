import HorizonIpc.Proofs.Service.Name
/-!
# Proofs.Service.Truncation — which names are told by their text

A name's text ends at its first zero, and its key does not: what stands in the field from that zero on is `hidden`.  A
name is canonical if that is zeros alone, and then it is the checked name of its text.  Checked names are canonical, and
a text cut down to a name gives a canonical one exactly if nothing but zeros stands behind a zero in it (`truncation`).
-/
namespace HorizonIpc
namespace ServiceName

open Bytes (zeros)
open Text (utf8 ofAscii isAscii)

variable {n n' : ServiceName} {bs : Bytes} {s : String}

/-- The bytes of a text that a name has room for. -/
def kept (s : String) : Bytes := (utf8 s).take maxLength

/-- What stands in the field of a name from its first zero on. -/
def hidden (n : ServiceName) : Bytes := n.bytes.dropWhile (· != 0)

/-- A name that the check makes of its own text. -/
def Canonical (n : ServiceName) : Prop := ofString? n.text = some n

/-- The names that can be made: checked, cut out of a text, or empty. -/
inductive Made : ServiceName → Prop
  | checked {s : String} {n : ServiceName} (h : ofString? s = some n) : Made n
  | truncated {s : String} {n : ServiceName} (h : truncate s = .ok n) : Made n
  | empty : Made .empty

/-! ## text and what is hidden behind it -/

theorem bytes_eq (n : ServiceName) : n.bytes = n.textBytes ++ n.hidden := List.takeWhile_append_dropWhile.symm

/-- **A name is its text and what is hidden behind it.** -/
theorem eq_iff : n = n' ↔ n.textBytes = n'.textBytes ∧ n.hidden = n'.hidden := by
  constructor
  · rintro rfl
    exact ⟨rfl, rfl⟩
  · rintro ⟨htext, hhidden⟩
    apply ext_bytes
    rw [bytes_eq n, htext, hhidden, bytes_eq n']

theorem length_hidden (n : ServiceName) : n.hidden.length = 8 - n.textBytes.length := by
  have hsize := n.size_eq
  rw [bytes_eq, List.length_append] at hsize
  omega

theorem length_textBytes_le (n : ServiceName) : n.textBytes.length ≤ 8 := by
  have hsize := n.size_eq
  rw [bytes_eq, List.length_append] at hsize
  omega

theorem hidden_eq_zeros_iff (n : ServiceName) :
    n.hidden = zeros (8 - n.textBytes.length) ↔ ∀ b ∈ n.hidden, b = 0 := by
  rw [zeros, List.eq_replicate_iff, length_hidden]
  exact and_iff_right rfl

theorem hidden_ofBytes_iff (h : bs.length ≤ 8) :
    (∀ b ∈ (ofBytes bs).hidden, b = 0) ↔ ∀ b ∈ bs.dropWhile (· != 0), b = 0 := by
  have hzeros : ∀ k, ∀ b ∈ zeros k, b = 0 := fun k b hb => List.eq_of_mem_replicate hb
  unfold hidden
  rw [bytes_ofBytes h, List.dropWhile_append]
  split
  · rename_i hnone
    rw [List.isEmpty_iff.1 hnone]
    exact ⟨fun _ => nofun, fun _ b hb => hzeros _ b ((List.dropWhile_suffix _).subset hb)⟩
  · rw [List.forall_mem_append]
    exact and_iff_left (hzeros _)

/-! ## names in ASCII -/

/-- A name whose field is in ASCII. -/
def Ascii (n : ServiceName) : Prop := ∀ b ∈ n.bytes, isAscii b

theorem ascii_ofBytes (hlen : bs.length ≤ 8) (h : ∀ b ∈ bs, isAscii b) : (ofBytes bs).Ascii := by
  unfold Ascii
  rw [bytes_ofBytes hlen, List.forall_mem_append]
  refine ⟨h, fun b hb => ?_⟩
  rw [List.eq_of_mem_replicate hb]
  rfl

namespace Ascii

theorem plain_textBytes (h : n.Ascii) : Plain n.textBytes where
  length_le := n.length_textBytes_le
  range := fun b hb => by
    have hascii := Text.isAscii_iff.1 (h b ((List.takeWhile_prefix _).subset hb))
    have hkeep : (b != 0) = true := List.mem_takeWhile_imp (p := (· != 0)) hb
    have hzero : b.toNat ≠ 0 := fun hz => bne_iff_ne.1 hkeep (UInt8.toNat.inj (hz : b.toNat = (0 : UInt8).toNat))
    omega

theorem utf8_text (h : n.Ascii) : utf8 n.text = n.textBytes := Text.utf8_ofAscii h.plain_textBytes.isAscii

theorem text_inj (h : n.Ascii) (h' : n'.Ascii) : n.text = n'.text ↔ n.textBytes = n'.textBytes := by
  refine ⟨fun heq => ?_, fun heq => congrArg ofAscii heq⟩
  rw [← h.utf8_text, heq, h'.utf8_text]

/-- **A name is canonical exactly if nothing is hidden behind its text.** -/
theorem canonical_iff (h : n.Ascii) : n.Canonical ↔ ∀ b ∈ n.hidden, b = 0 := by
  have hplain : Plain (utf8 n.text) := by
    rw [h.utf8_text]
    exact h.plain_textBytes
  rw [Canonical, ofString?_eq_some_iff, h.utf8_text, and_iff_right h.plain_textBytes, ← hidden_eq_zeros_iff]
  have hfield := bytes_ofBytes n.length_textBytes_le
  constructor
  · intro heq
    rw [← List.append_cancel_left_eq n.textBytes, ← bytes_eq, ← hfield, ← heq]
  · intro hhidden
    apply ext_bytes
    rw [hfield, ← hhidden, ← bytes_eq]

end Ascii

/-! ## names that can be made -/

theorem length_kept_le (s : String) : (kept s).length ≤ 8 := List.length_take_le 8 _

theorem truncate_eq_ok_iff : truncate s = .ok n ↔ (∀ b ∈ kept s, isAscii b) ∧ n = ofBytes (kept s) := by
  have hkept : truncate s = if (kept s).all isAscii then .ok (ofBytes (kept s)) else .error .notAscii := rfl
  rw [hkept, ← List.all_eq_true]
  split
  · exact ⟨fun h => ⟨‹_›, (Except.ok.inj h).symm⟩, fun h => congrArg Except.ok h.2.symm⟩
  · exact ⟨nofun, fun h => absurd h.1 ‹_›⟩

/-- **Every name that can be made is in ASCII**, whatever is hidden in it. -/
theorem Made.ascii (h : Made n) : n.Ascii := by
  cases h with
  | checked h =>
    obtain ⟨hplain, rfl⟩ := ofString?_eq_some_iff.1 h
    exact ascii_ofBytes hplain.length_le hplain.isAscii
  | truncated h =>
    obtain ⟨hascii, rfl⟩ := truncate_eq_ok_iff.1 h
    exact ascii_ofBytes (length_kept_le _) hascii
  | empty => exact ascii_ofBytes (Nat.zero_le 8) nofun

theorem canonical_checked (h : ofString? s = some n) : n.Canonical := by
  obtain ⟨hplain, rfl⟩ := ofString?_eq_some_iff.1 h
  rw [Canonical, (spells_ofBytes hplain).text]
  exact h

theorem canonical_empty : empty.Canonical := by
  rw [Made.empty.ascii.canonical_iff]
  exact (hidden_ofBytes_iff (show ([] : Bytes).length ≤ 8 from Nat.zero_le 8)).2 nofun

theorem key_eq_zero_iff (h : n.Ascii) : n.key = 0 ↔ n.isEmpty = true ∧ n.Canonical := by
  have hzero : empty.key = 0 := by decide
  rw [← hzero, key_inj]
  constructor
  · rintro rfl
    exact ⟨rfl, canonical_empty⟩
  · rintro ⟨hempty, hcanonical⟩
    have htext := (isEmpty_iff n).1 hempty
    have hhidden := n.hidden_eq_zeros_iff.2 (h.canonical_iff.1 hcanonical)
    rw [htext] at hhidden
    exact eq_iff.2 ⟨htext, hhidden⟩

theorem padded_iff (a b : ServiceName) : (∀ width, a.padded width = b.padded width) ↔ a.text = b.text := by
  have hnarrow : ∀ n : ServiceName, n.padded 0 = n.text := fun n => by simp [padded, Text.padLeft]
  refine ⟨fun h => ?_, fun h width => congrArg (Text.padLeft ' ' width) h⟩
  rw [← hnarrow a, h 0, hnarrow b]

/-! ## the main statement -/

/-- **What is left of a text in a name cut out of it.**  The text of the name ends where a zero is kept, and it is all
that is kept and the name is canonical exactly if no zero is. -/
structure CutFrom (n : ServiceName) (s : String) : Prop where
  text : utf8 n.text = (kept s).takeWhile (· != 0)
  whole_iff : utf8 n.text = kept s ∧ n.Canonical ↔ 0 ∉ kept s
  canonical_iff : n.Canonical ↔ ∀ b ∈ (kept s).dropWhile (· != 0), b = 0

/-- **How two names compare**: their keys like the names, what is shown of them like their texts, and all of these alike
if both are canonical. -/
structure Compares (a b : ServiceName) : Prop where
  key_iff : a.key = b.key ↔ a = b
  padded_iff : (∀ width, a.padded width = b.padded width) ↔ a.text = b.text
  parts_iff : a = b ↔ a.text = b.text ∧ a.hidden = b.hidden
  canonical : a.Canonical → b.Canonical → (a.text = b.text ↔ a.key = b.key)

theorem cutFrom_of_truncate (h : truncate s = .ok n) : n.CutFrom s := by
  have hascii := (Made.truncated h).ascii
  obtain ⟨-, rfl⟩ := truncate_eq_ok_iff.1 h
  have htext := hascii.utf8_text.trans (textBytes_ofBytes (length_kept_le s))
  have hcanonical := hascii.canonical_iff.trans (hidden_ofBytes_iff (length_kept_le s))
  have hwhole : utf8 (ofBytes (kept s)).text = kept s ↔ 0 ∉ kept s := by
    rw [htext, List.takeWhile_eq_self_iff]
    exact ⟨fun hall hzero => bne_iff_ne.1 (hall 0 hzero) rfl, fun hno b hb => bne_iff_ne.2 fun hb0 => hno (hb0 ▸ hb)⟩
  refine ⟨htext, ⟨fun h => hwhole.1 h.1, fun hno => ⟨hwhole.2 hno, hcanonical.2 ?_⟩⟩, hcanonical⟩
  -- nothing is dropped, and so nothing but a zero
  have hall := List.takeWhile_eq_self_iff.1 (htext.symm.trans (hwhole.2 hno))
  rw [List.dropWhile_eq_nil_iff.2 hall]
  exact nofun

theorem compares_of_made {a b : ServiceName} (ha : Made a) (hb : Made b) : Compares a b where
  key_iff := key_inj
  padded_iff := padded_iff a b
  parts_iff := by rw [ha.ascii.text_inj hb.ascii, eq_iff]
  canonical := fun hca hcb => by
    have hzeros := a.hidden_eq_zeros_iff.2 (ha.ascii.canonical_iff.1 hca)
    have hzeros' := b.hidden_eq_zeros_iff.2 (hb.ascii.canonical_iff.1 hcb)
    rw [key_inj, eq_iff, ha.ascii.text_inj hb.ascii]
    refine ⟨fun htext => ⟨htext, ?_⟩, fun h => h.1⟩
    rw [hzeros, hzeros', htext]

/-- **A name is told by its text exactly if nothing is hidden behind it.**  A text cut down to a name gives the checked
name of all that is kept exactly if no zero is kept; checked names and the empty one are canonical.  Of names however
made, the key tells the text and what is hidden, and is zero exactly for an empty name with nothing hidden; so canonical
names compare alike in every way. -/
theorem truncation {a b : ServiceName} (ha : Made a) (hb : Made b) :
    (∀ s, truncate s = .ok a → a.CutFrom s) ∧ (∀ s, ofString? s = some a → a.Canonical) ∧ empty.Canonical ∧
      Compares a b ∧ (a.key = 0 ↔ a.isEmpty = true ∧ a.Canonical) :=
  ⟨fun _ => cutFrom_of_truncate, fun _ => canonical_checked, canonical_empty, compares_of_made ha hb,
    key_eq_zero_iff ha.ascii⟩

/-- A text that is too long is cut after eight bytes, and is then like the checked name of these. -/
theorem truncation_long :
    ∃ n n', truncate "way-too-long" = .ok n ∧ ofString? "way-too-" = some n' ∧ utf8 n.text = kept "way-too-long" ∧
      n.Canonical ∧ n'.Canonical ∧ (n.text = n'.text ↔ n.key = n'.key) := by
  have hcut : truncate "way-too-long" = .ok (ofBytes (utf8 "way-too-")) := by rfl
  have hchecked : ofString? "way-too-" = some (ofBytes (utf8 "way-too-")) := by decide +kernel
  obtain ⟨htruncated, -, -, hcompares, -⟩ := truncation (.truncated hcut) (.checked hchecked)
  obtain ⟨htext, hcanonical⟩ := (htruncated _ hcut).whole_iff.2 (by decide +kernel)
  have hcanonical' := (truncation (.checked hchecked) (.truncated hcut)).2.1 _ hchecked
  exact ⟨_, _, hcut, hchecked, htext, hcanonical, hcanonical', hcompares.canonical hcanonical hcanonical'⟩

/-- A zero is kept: the text before it is that of another name with another key, and a name with a key can be empty. -/
theorem truncation_hidden :
    ∃ n n' e, truncate "a\x00b" = .ok n ∧ truncate "a" = .ok n' ∧ truncate "\x00a" = .ok e ∧
      utf8 n.text ≠ kept "a\x00b" ∧ ¬ n.Canonical ∧ n.text = n'.text ∧ n.key ≠ n'.key ∧
      e.isEmpty = true ∧ e.key ≠ 0 := by
  refine ⟨ofBytes [97, 0, 98], ofBytes [97], ofBytes [0, 97], rfl, rfl, rfl, ?_, ?_, rfl, ?_, rfl, ?_⟩
  · decide +kernel
  · unfold Canonical
    decide +kernel
  · decide
  · decide

end ServiceName
end HorizonIpc
