import HorizonIpc.Parcel.Area
import HorizonIpc.Proofs.Bytes.Splice
/-!
# Proofs.Parcel.Area — an area is a queue of bytes

What stands between the cursor and the extent is unread.  An append that has room extends the area by the padded value
and changes nothing else (`append_on`), and a take that fits it removes the padded value from its front (`take_on`); so
the cells behind the extent never matter.
-/
namespace HorizonIpc
namespace Parcel

open Bytes (zeros)

/-- A value with the padding behind it. -/
def pad (bs : Bytes) : Bytes := bs ++ zeros (padded bs.length - bs.length)

theorem le_padded (len : Nat) : len ≤ padded len := le_alignUp (by decide) len

theorem padded_mod (len : Nat) : padded len % 4 = 0 := alignUp_mod 4 len

theorem length_pad (bs : Bytes) : (pad bs).length = padded bs.length := by
  have h := le_padded bs.length
  unfold pad
  rw [List.length_append, Bytes.length_zeros]
  omega

theorem pad_of_mod {bs : Bytes} (h : bs.length % 4 = 0) : pad bs = bs := by
  have hpadded : padded bs.length = bs.length := by
    unfold padded alignUp unitsFor
    omega
  unfold pad
  rw [hpadded, Nat.sub_self]
  exact List.append_nil bs

namespace Area

variable {a : Area} {bs rest : Bytes}

theorem length_written (h : a.extent ≤ capacity) : a.written.length = a.extent := by
  unfold written
  rw [List.length_take, a.cells_length, Nat.min_eq_left h]

/-- **The contents put in are the contents written**, and nothing of what was there before. -/
theorem written_replace (h : bs.length ≤ capacity) : (a.replace bs).written = bs := by
  have hroom : bs.length ≤ a.cells.length := by rw [a.cells_length]; exact h
  show (Bytes.overlay a.cells 0 bs).take bs.length = bs
  have hwindow := Bytes.window_overlay (show 0 + bs.length ≤ a.cells.length by omega)
  unfold Bytes.window at hwindow
  rwa [List.drop_zero] at hwindow

/-- An area whose cursor and extent are where the operations leave them. -/
structure Sound (a : Area) : Prop where
  cursor_le : a.cursor ≤ a.extent
  extent_le : a.extent ≤ capacity

/-- The bytes that are written and not read. -/
def unread (a : Area) : Bytes := a.written.drop a.cursor

theorem sound_empty : empty.Sound := ⟨Nat.le_refl _, Nat.zero_le _⟩

theorem unread_empty : empty.unread = [] := rfl

theorem Sound.length_unread (h : a.Sound) : a.unread.length = a.extent - a.cursor := by
  unfold unread
  rw [List.length_drop, length_written h.extent_le]

theorem Sound.length_unread_le (h : a.Sound) : a.unread.length ≤ capacity := by
  have hlen := h.length_unread
  have hle := h.extent_le
  omega

/-- The area with an image behind what was written. -/
def extend (a : Area) (image : Bytes) : Area where
  cells := a.cells.overlay a.extent image
  cells_length := (Bytes.length_overlay _ _ _).trans a.cells_length
  extent := a.extent + image.length
  cursor := a.cursor

variable {image : Bytes}

/-- **An image that fits** stands behind what was written, and no byte in front of it changes. -/
theorem written_extend (hfit : a.extent + image.length ≤ capacity) :
    (a.extend image).written = a.written ++ image := by
  have hcells : a.extent + image.length ≤ a.cells.length := by rw [a.cells_length]; exact hfit
  have hfront : (a.written ++ image).length = a.extent + image.length := by
    rw [List.length_append, length_written (by omega)]
  show (Bytes.overlay a.cells a.extent image).take (a.extent + image.length) = _
  rw [Bytes.overlay_of_fits hcells]
  exact List.take_left' hfront

/-- **Two images, one behind the other**, are one image. -/
theorem extend_extend {x y : Bytes} (hfit : a.extent + (x ++ y).length ≤ capacity) :
    (a.extend x).extend y = a.extend (x ++ y) := by
  have hcells : a.extent + (x ++ y).length ≤ a.cells.length := by rw [a.cells_length]; exact hfit
  show Area.mk _ _ _ _ = Area.mk _ _ _ _
  congr 1
  · exact Bytes.overlay_overlay_behind hcells
  · show a.extent + x.length + y.length = _
    rw [List.length_append, Nat.add_assoc]

theorem Sound.extend (h : a.Sound) (hfit : a.extent + image.length ≤ capacity) : (a.extend image).Sound :=
  ⟨Nat.le_trans h.cursor_le (Nat.le_add_right _ _), hfit⟩

theorem Sound.unread_extend (h : a.Sound) (hfit : a.extent + image.length ≤ capacity) :
    (a.extend image).unread = a.unread ++ image := by
  have hcursor : a.cursor ≤ a.written.length := by rw [length_written h.extent_le]; exact h.cursor_le
  unfold unread
  rw [written_extend hfit]
  exact List.drop_append_of_le_length hcursor

theorem free_extend (a : Area) (image : Bytes) : (a.extend image).free = a.free - image.length :=
  Nat.sub_add_eq capacity a.extent image.length

/-- **An append that has room** puts the padded value behind what was written. -/
theorem append_on (full : Error) (hfit : a.extent + (pad bs).length ≤ capacity) :
    (append full bs).on a = (.ok (), a.extend (pad bs)) := by
  have hlen := length_pad bs
  have hgo : ¬ padded bs.length > a.free := by
    unfold free
    omega
  unfold append
  simp only [Attempt.on_bind, Attempt.on_get, hgo, if_false, Attempt.on_set]
  unfold extend
  simp only [hlen]
  rfl

theorem append_full (full : Error) (hroom : a.free < (pad bs).length) :
    (append full bs).on a = (.error full, a) := by
  have hlen := length_pad bs
  have hstop : padded bs.length > a.free := by omega
  unfold append
  simp only [Attempt.on_bind, Attempt.on_get, hstop, if_true, Attempt.on_throw]

/-- The area with its cursor moved on. -/
def skip (a : Area) (n : Nat) : Area := { a with cursor := a.cursor + n }

/-- **A take that ends inside the extent** reads what stands at the cursor and moves behind its padding. -/
theorem take_inside {len : Nat} (hend : a.cursor + padded len ≤ a.extent) :
    (take len).on a = (.ok (a.written.window a.cursor len), a.skip (padded len)) := by
  unfold take
  simp only [Attempt.on_bind, Attempt.on_get, Nat.not_lt.2 hend, gt_iff_lt, if_false]
  rfl

theorem take_beyond {len : Nat} (hend : a.extent < a.cursor + padded len) :
    (take len).on a = (.error .underflow, a) := by
  unfold take
  simp only [Attempt.on_bind, Attempt.on_get, hend, gt_iff_lt, if_true, Attempt.on_throw]

theorem Sound.skip (h : a.Sound) {n : Nat} (hend : a.cursor + n ≤ a.extent) : (a.skip n).Sound := ⟨hend, h.extent_le⟩

theorem unread_skip (a : Area) (n : Nat) : (a.skip n).unread = a.unread.drop n := List.drop_drop.symm

/-- **A take of the value in front** reads it and leaves what is behind its padding. -/
theorem take_on (h : a.Sound) (hfront : a.unread = pad bs ++ rest) :
    ∃ a', (take bs.length).on a = (.ok bs, a') ∧ a'.Sound ∧ a'.unread = rest := by
  have hcursor := h.cursor_le
  have hlen := h.length_unread
  rw [hfront, List.length_append, length_pad] at hlen
  have hend : a.cursor + padded bs.length ≤ a.extent := by omega
  have hvalue : a.written.window a.cursor bs.length = bs := by
    show a.unread.take bs.length = bs
    rw [hfront, pad, List.append_assoc, List.take_left' rfl]
  refine ⟨_, ?_, h.skip hend, ?_⟩
  · rw [take_inside hend, hvalue]
  · rw [unread_skip, hfront, List.drop_left' (length_pad bs)]

end Area
end Parcel
end HorizonIpc
