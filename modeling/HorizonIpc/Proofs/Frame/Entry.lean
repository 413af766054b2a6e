import HorizonIpc.Proofs.Bytes.Splice
import HorizonIpc.Proofs.Frame.Codec
/-!
# Proofs.Frame.Entry — the entries of a section

A section is a run of entries of one width.  An `EntryCodec` says how one entry is written, and that every string of its
width is exactly one entry; so reading a section gives the entries that stand there, no matter who wrote them
(`map_decode_entries_eq_iff`).
-/
namespace HorizonIpc

/-- How entries of one width are written, such that each string of that width is one entry. -/
structure EntryCodec (α : Type) where
  width : Nat
  encode : α → Bytes
  decode : Bytes → α
  length_encode : ∀ x, (encode x).length = width
  decode_encode : ∀ x, decode (encode x) = x
  encode_decode : ∀ {bs : Bytes}, bs.length = width → encode (decode bs) = bs

def Bytes.codec32 : EntryCodec UInt32 :=
  ⟨4, ofUInt32, toUInt32, length_ofUInt32, toUInt32_ofUInt32_self, ofUInt32_toUInt32⟩

def Bytes.codec64 : EntryCodec UInt64 :=
  ⟨8, ofUInt64, toUInt64, length_ofUInt64, toUInt64_ofUInt64_self, ofUInt64_toUInt64⟩

def StaticDescriptor.codec : EntryCodec StaticDescriptor :=
  ⟨width, encode, decode, length_encode, decode_encode, encode_decode⟩

def BufferDescriptor.codec : EntryCodec BufferDescriptor :=
  ⟨width, encode, decode, length_encode, decode_encode, encode_decode⟩

def RecvEntry.codec : EntryCodec RecvEntry :=
  ⟨width, encode, decode, length_encode, decode_encode, encode_decode⟩

namespace Message

variable {α : Type} {m : Message} (c : EntryCodec α)

/-- The `count` entries `xs` stand one behind another from offset `start` on. -/
def Lists (m : Message) (start : Nat) (c : EntryCodec α) (count : Nat) (xs : List α) : Prop :=
  xs.length = count ∧ xs.flatMap c.encode <+: m.bytes.drop start

theorem entries_succ (start stride count : Nat) :
    m.entries start stride (count + 1) = m.window start stride :: m.entries (start + stride) stride count := by
  unfold entries
  rw [List.range_succ_eq_map]
  simp only [List.map_cons, List.map_map, Nat.zero_mul, Nat.add_zero, List.cons.injEq, true_and]
  refine List.map_congr_left fun i _ => ?_
  simp only [Function.comp_apply]
  rw [Nat.succ_mul, Nat.add_comm (i * stride), Nat.add_assoc]

/-- The entries that are read are written there. -/
theorem lists_entries : ∀ {start count : Nat}, start + count * c.width ≤ size →
    m.Lists start c count ((m.entries start c.width count).map c.decode)
  | start, 0, _ => ⟨rfl, List.nil_prefix⟩
  | start, count + 1, h => by
    rw [Nat.succ_mul] at h
    have hlen : (m.window start c.width).length = c.width := by
      apply Bytes.length_window
      rw [m.size_eq]
      exact Nat.le_trans (by omega) h
    have ih : m.Lists (start + c.width) c count _ := lists_entries (by omega)
    refine ⟨by simp, ?_⟩
    rw [entries_succ, List.map_cons, List.flatMap_cons, c.encode_decode hlen,
      ← List.take_append_drop c.width (m.bytes.drop start), List.drop_drop]
    exact (List.prefix_append_right_inj _).2 ih.2

/-- **Reading a section that ends inside the message gives exactly the entries that stand there.** -/
theorem map_decode_entries_eq_iff {start count : Nat} (h : start + count * c.width ≤ size) {xs : List α} :
    (m.entries start c.width count).map c.decode = xs ↔ m.Lists start c count xs := by
  constructor
  · rintro rfl
    exact lists_entries c h
  · rintro ⟨rfl, rest, hrest⟩
    have hcut : m.bytes = m.bytes.take start ++ xs.flatMap c.encode ++ rest := by
      rw [List.append_assoc, hrest, List.take_append_drop]
    have hstart : start = (m.bytes.take start).length := by
      rw [List.length_take, m.size_eq]
      exact (Nat.min_eq_left (Nat.le_trans (Nat.le_add_right _ _) h)).symm
    exact map_decode_entries hcut hstart c.length_encode c.decode_encode

end Message
end HorizonIpc
