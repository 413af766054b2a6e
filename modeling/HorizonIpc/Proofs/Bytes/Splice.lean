import HorizonIpc.Frame.Message
/-!
# Proofs.Bytes.Splice — windows and overlays of a string in parts

A message is its sections one behind another.  So windows and overlays are stated of a string `a ++ b`: from
`a.length` on they see `b` alone, and as long as they end inside `a` they see `a` alone.  `entries_eq_map` reads a
whole table back.
-/
namespace HorizonIpc
namespace Bytes

/-- The string of that many zeros. -/
def zeros (n : Nat) : Bytes := List.replicate n 0

@[simp] theorem length_zeros (n : Nat) : (zeros n).length = n := List.length_replicate

theorem zeros_add (m n : Nat) : zeros (m + n) = zeros m ++ zeros n :=
  List.replicate_append_replicate.symm

theorem length_flatMap {α : Type} {encode : α → Bytes} {stride : Nat} (h : ∀ x, (encode x).length = stride) :
    ∀ xs : List α, (xs.flatMap encode).length = xs.length * stride
  | [] => by rw [List.flatMap_nil, List.length_nil, List.length_nil, Nat.zero_mul]
  | x :: xs => by
    rw [List.flatMap_cons, List.length_append, h x, length_flatMap h xs, List.length_cons, Nat.succ_mul, Nat.add_comm]

/-! ## windows -/

/-- **Behind `a` a window sees `b` alone.** -/
theorem window_append_right (a b : Bytes) (k len : Nat) : window (a ++ b) (a.length + k) len = window b k len := by
  unfold window
  rw [← List.drop_drop, List.drop_left]

/-- **A window that ends inside `a` sees `a` alone.** -/
theorem window_append_left {a : Bytes} {k len : Nat} (h : k + len ≤ a.length) (b : Bytes) :
    window (a ++ b) k len = window a k len := by
  unfold window
  rw [List.drop_append_of_le_length (by omega), List.take_append_of_le_length]
  rw [List.length_drop]
  omega

theorem window_zero_length (a : Bytes) : window a 0 a.length = a := by
  unfold window
  rw [List.drop_zero, List.take_length]

theorem window_middle {a b c bs : Bytes} {start len : Nat} (hbs : bs = a ++ b ++ c) (hs : start = a.length)
    (hl : len = b.length) : window bs start len = b := by
  subst hbs hs hl
  rw [List.append_assoc, ← Nat.add_zero a.length, window_append_right, window_append_left (by omega),
    window_zero_length]

theorem window_inside {a b c bs : Bytes} {start k len : Nat} (hbs : bs = a ++ b ++ c) (hs : start = a.length + k)
    (hl : k + len ≤ b.length) : window bs start len = window b k len := by
  subst hbs hs
  rw [List.append_assoc, window_append_right, window_append_left hl]

theorem window_zeros {n k len : Nat} (h : k + len ≤ n) : window (zeros n) k len = zeros len := by
  unfold window zeros
  rw [List.drop_replicate, List.take_replicate, Nat.min_eq_left (by omega)]

/-! ## overlays -/

/-- **Behind `a` an overlay changes `b` alone.** -/
theorem overlay_append_right (a b : Bytes) (k : Nat) (new : Bytes) :
    overlay (a ++ b) (a.length + k) new = a ++ overlay b k new := by
  unfold overlay
  rw [List.take_length_add_append, Nat.add_assoc, List.drop_length_add_append, List.length_append,
    Nat.add_sub_add_left]
  simp only [List.append_assoc]

/-- **An overlay that ends inside `a` changes `a` alone.** -/
theorem overlay_append_left {a : Bytes} {k : Nat} {new : Bytes} (h : k + new.length ≤ a.length) (b : Bytes) :
    overlay (a ++ b) k new = overlay a k new ++ b := by
  unfold overlay
  have hroom : new.length ≤ (a ++ b).length - k := by rw [List.length_append]; omega
  have hroom' : new.length ≤ a.length - k := by omega
  rw [List.take_append_of_le_length (by omega), List.drop_append_of_le_length h, List.take_of_length_le hroom,
    List.take_of_length_le hroom']
  simp only [List.append_assoc]

theorem overlay_inside {a b c bs new : Bytes} {start k : Nat} (hbs : bs = a ++ b ++ c) (hs : start = a.length + k)
    (hn : k + new.length ≤ b.length) : overlay bs start new = a ++ overlay b k new ++ c := by
  subst hbs hs
  rw [List.append_assoc, overlay_append_right, overlay_append_left hn, List.append_assoc]

/-- **An overlay on zeros** leaves zeros before and behind it. -/
theorem overlay_zeros {n k : Nat} {new : Bytes} (h : k + new.length ≤ n) :
    overlay (zeros n) k new = zeros k ++ new ++ zeros (n - (k + new.length)) := by
  have hroom : new.length ≤ n - k := by omega
  unfold overlay zeros
  rw [List.length_replicate, List.take_of_length_le hroom, List.take_replicate, List.drop_replicate,
    Nat.min_eq_left (by omega)]

/-- **An overlay right behind the parts written so far** goes into the zeros that follow them. -/
theorem overlay_behind {a bs new : Bytes} {start n : Nat} (hbs : bs = a ++ zeros n) (hs : start = a.length)
    (h : new.length ≤ n) : overlay bs start new = a ++ new ++ zeros (n - new.length) := by
  subst hbs hs
  rw [← Nat.add_zero a.length, overlay_append_right, overlay_zeros (by omega), Nat.zero_add, List.append_assoc,
    List.append_assoc]
  rfl

theorem overlay_of_fits {bs new : Bytes} {start : Nat} (h : start + new.length ≤ bs.length) :
    overlay bs start new = bs.take start ++ new ++ bs.drop (start + new.length) := by
  unfold overlay
  rw [List.take_of_length_le (l := new) (by omega)]

theorem overlay_nil (bs : Bytes) (start : Nat) : overlay bs start [] = bs := by
  unfold overlay
  rw [List.take_nil, List.append_nil, List.length_nil, Nat.add_zero, List.take_append_drop]

/-- **Two overlays, one right behind the other**, are one overlay. -/
theorem overlay_overlay_behind {bs x y : Bytes} {start : Nat} (h : start + (x ++ y).length ≤ bs.length) :
    overlay (overlay bs start x) (start + x.length) y = overlay bs start (x ++ y) := by
  rw [List.length_append] at h
  have hfront : (bs.take start ++ x).length = start + x.length := by
    rw [List.length_append, List.length_take, Nat.min_eq_left (by omega)]
  have hfirst : overlay bs start x = bs.take start ++ x ++ bs.drop (start + x.length) := overlay_of_fits (by omega)
  have hboth : overlay bs start (x ++ y) = bs.take start ++ (x ++ y) ++ bs.drop (start + (x ++ y).length) :=
    overlay_of_fits (by rw [List.length_append]; exact h)
  rw [overlay_of_fits (by rw [length_overlay]; omega), hfirst, hboth, List.take_left' hfront, ← List.drop_drop,
    List.drop_left' hfront, List.drop_drop, List.length_append, Nat.add_assoc]
  simp only [List.append_assoc]

theorem overlay_whole {bs new : Bytes} (h : new.length = bs.length) : overlay bs 0 new = new := by
  unfold overlay
  rw [List.take_zero, List.nil_append, Nat.sub_zero, List.take_of_length_le (by omega),
    List.drop_of_length_le (by omega), List.append_nil]

/-- **Zeros that are written over from their start** are the value and the zeros behind it. -/
theorem overlay_overlay_zeros {bs new : Bytes} {start n : Nat} (hn : new.length ≤ n) (hfit : start + n ≤ bs.length) :
    overlay (overlay bs start (zeros n)) start new = overlay bs start (new ++ zeros (n - new.length)) := by
  have hcut : overlay bs start (zeros n) = bs.take start ++ zeros n ++ bs.drop (start + (zeros n).length) :=
    overlay_of_fits (by rw [length_zeros]; exact hfit)
  have hlen : (new ++ zeros (n - new.length)).length = (zeros n).length := by
    rw [List.length_append, length_zeros, length_zeros]
    omega
  have hstart : start = (bs.take start).length + 0 := by
    rw [List.length_take]
    omega
  have hroom : 0 + new.length ≤ (zeros n).length := by
    rw [length_zeros]
    omega
  rw [overlay_inside hcut hstart hroom, overlay_zeros (by omega),
    overlay_of_fits (by rw [hlen, length_zeros]; exact hfit), hlen, Nat.zero_add]
  rfl

/-- **Changing a window and writing it back** is changing the string at that place. -/
theorem overlay_overlay_window {bs new : Bytes} {start k len : Nat} (hl : start + len ≤ bs.length)
    (hn : k + new.length ≤ len) : overlay bs start (overlay (window bs start len) k new) = overlay bs (start + k) new := by
  have hcut : bs = bs.take start ++ window bs start len ++ bs.drop (start + len) := by
    unfold window
    rw [List.append_assoc, ← List.drop_drop, List.take_append_drop, List.take_append_drop]
  have hstart : start = (bs.take start).length + 0 := by rw [List.length_take]; omega
  have hplace : start + k = (bs.take start).length + k := by rw [List.length_take]; omega
  have hwin : (window bs start len).length = len := length_window hl
  rw [overlay_inside hcut hstart (by rw [length_overlay]; omega), overlay_inside hcut hplace (by omega),
    overlay_whole (length_overlay _ _ _)]

end Bytes

namespace Message

theorem write_nil (m : Message) (start : Nat) : m.write start [] = m := ext_bytes (Bytes.overlay_nil m.bytes start)

theorem write_write_behind {m : Message} {x y : Bytes} {start : Nat} (h : start + (x ++ y).length ≤ size) :
    (m.write start x).write (start + x.length) y = m.write start (x ++ y) := by
  refine ext_bytes (Bytes.overlay_overlay_behind ?_)
  rw [m.size_eq]
  exact h

/-- **A table is read back entry by entry.** -/
theorem entries_eq_map {α : Type} {m : Message} {a c : Bytes} {xs : List α} {encode : α → Bytes} {start stride : Nat}
    (hm : m.bytes = a ++ xs.flatMap encode ++ c) (hs : start = a.length) (hx : ∀ x, (encode x).length = stride) :
    m.entries start stride xs.length = xs.map encode := by
  subst hs
  induction xs generalizing a with
  | nil => rfl
  | cons x xs ih =>
    have hrest := ih (a := a ++ encode x) (by rw [hm, List.flatMap_cons]; simp only [List.append_assoc])
    have hfirst : m.window a.length stride = encode x := by
      unfold window
      refine Bytes.window_middle (c := xs.flatMap encode ++ c) ?_ rfl (hx x).symm
      rw [hm, List.flatMap_cons]
      simp only [List.append_assoc]
    unfold entries at hrest ⊢
    rw [List.length_cons, List.range_succ_eq_map, List.map_cons, List.map_cons, Nat.zero_mul, Nat.add_zero, hfirst,
      ← hrest, List.map_map]
    congr 1
    refine List.map_congr_left fun i _ => ?_
    show m.window (a.length + (i + 1) * stride) stride = m.window ((a ++ encode x).length + i * stride) stride
    rw [List.length_append, hx x, Nat.succ_mul]
    congr 1
    omega

/-- **And decoded again**, if the decoder undoes the encoder. -/
theorem map_decode_entries {α : Type} {m : Message} {a c : Bytes} {xs : List α} {encode : α → Bytes}
    {decode : Bytes → α} {start stride : Nat} (hm : m.bytes = a ++ xs.flatMap encode ++ c) (hs : start = a.length)
    (hx : ∀ x, (encode x).length = stride) (hd : ∀ x, decode (encode x) = x) :
    (m.entries start stride xs.length).map decode = xs := by
  rw [entries_eq_map hm hs hx, List.map_map]
  conv => rhs; rw [← List.map_id xs]
  exact List.map_congr_left fun x _ => hd x

end Message
end HorizonIpc
