import HorizonIpc.Proofs.Bytes.Splice
/-!
# Proofs.Guarded.Basic — steps that can be faults

The definitions of this library never stop: a window that reaches behind its string is short, and a sum is as large as
it has to be.  A machine stops at both.  So the guarded definitions repeat the library's step by step, with `none` for a
fault: a sum or a product that is too large for a machine word, a difference below zero, an index or a slice outside its
string, a copy between strings of different lengths, a list that is longer than its capacity.  A guarded definition that is `some` of the plain
one meets no fault.
-/
namespace HorizonIpc
namespace Guarded

/-- One more than the largest number of a machine word. -/
def wordLimit : Nat := 0x10000000000000000

def sum (a b : Nat) : Option Nat := if a + b < wordLimit then some (a + b) else none

def product (a b : Nat) : Option Nat := if a * b < wordLimit then some (a * b) else none

def difference (a b : Nat) : Option Nat := if b ≤ a then some (a - b) else none

/-- Where the entry behind `count` entries of a table starts. -/
def behind (start count width : Nat) : Option Nat := do sum start (← product count width)

/-- Where the entry behind a single one starts that may be absent. -/
def past (present : Bool) (start width : Nat) : Option Nat := if present then sum start width else some start

def slice (bs : Bytes) (start stop : Nat) : Option Bytes :=
  if start ≤ stop ∧ stop ≤ bs.length then some (bs.window start (stop - start)) else none

def fill (bs : Bytes) (start stop : Nat) (new : Bytes) : Option Bytes := do
  let part ← slice bs start stop
  if part.length = new.length then some (bs.overlay start new) else none

/-- The `len` bytes of a string from `start` on. -/
def cut (bs : Bytes) (start len : Nat) : Option Bytes := do slice bs start (← sum start len)

/-- The string with `new` copied to `start`. -/
def paste (bs : Bytes) (start : Nat) (new : Bytes) : Option Bytes := do fill bs start (← sum start new.length) new

/-- Collects a list into a vector of fixed capacity. -/
def gather {α : Type} (capacity : Nat) (xs : List α) : Option (List α) :=
  if xs.length ≤ capacity then some xs else none

def read (m : Message) (start len : Nat) : Option Bytes := do slice m.bytes start (← sum start len)

/-- The message with `new` written where a string of that length could be read. -/
def put (m : Message) (start : Nat) (new : Bytes) : Option Message := do
  let _ ← read m start new.length
  return m.write start new

def table (m : Message) (start width count : Nat) : Option (List Bytes) :=
  (List.range count).mapM fun i => do read m (← behind start i width) width

def putEntry {α : Type} (encode : α → Bytes) (start width : Nat) (m : Message) (entry : α × Nat) : Option Message := do
  put m (← behind start entry.2 width) (encode entry.1)

def putAll {α : Type} (encode : α → Bytes) (m : Message) (start width : Nat) (xs : List α) : Option Message :=
  xs.zipIdx.foldlM (putEntry encode start width) m

variable {bs new : Bytes} {m : Message} {a b start stop len width count : Nat}

theorem sum_eq (h : a + b < wordLimit) : sum a b = some (a + b) := if_pos h

theorem product_eq (h : a * b < wordLimit) : product a b = some (a * b) := if_pos h

theorem difference_eq (h : b ≤ a) : difference a b = some (a - b) := if_pos h

theorem behind_eq (h : start + count * width < wordLimit) : behind start count width = some (start + count * width) := by
  unfold behind
  rw [product_eq (by omega)]
  exact sum_eq h

theorem past_eq {present : Bool} (h : start + width < wordLimit) :
    past present start width = some (start + if present then width else 0) := by
  cases present with
  | true => exact sum_eq h
  | false => rfl

theorem slice_eq (hs : start ≤ stop) (hb : stop ≤ bs.length) : slice bs start stop = some (bs.window start (stop - start)) :=
  if_pos ⟨hs, hb⟩

theorem slice_zero (h : stop ≤ bs.length) : slice bs 0 stop = some (bs.take stop) :=
  slice_eq (Nat.zero_le _) h

theorem fill_eq (hb : stop ≤ bs.length) (hn : start + new.length = stop) :
    fill bs start stop new = some (bs.overlay start new) := by
  have hpart : (bs.window start (stop - start)).length = new.length := by
    rw [Bytes.length_window (by omega)]
    omega
  unfold fill
  rw [slice_eq (by omega) hb]
  exact if_pos hpart

theorem cut_eq (h : start + len ≤ bs.length) (hb : bs.length < wordLimit) : cut bs start len = some (bs.window start len) := by
  unfold cut
  rw [sum_eq (Nat.lt_of_le_of_lt h hb)]
  show slice _ _ _ = _
  rw [slice_eq (Nat.le_add_right _ _) h, Nat.add_sub_cancel_left]

theorem paste_eq (h : start + new.length ≤ bs.length) (hb : bs.length < wordLimit) :
    paste bs start new = some (bs.overlay start new) := by
  unfold paste
  rw [sum_eq (Nat.lt_of_le_of_lt h hb)]
  exact fill_eq h rfl

theorem gather_eq {α : Type} {xs : List α} {capacity : Nat} (h : xs.length ≤ capacity) : gather capacity xs = some xs :=
  if_pos h

/-- **A read that ends inside the message** meets no fault. -/
theorem read_eq (h : start + len ≤ Message.size) : read m start len = some (m.window start len) := by
  have hlimit : Message.size < wordLimit := by decide
  have hstop : start + len ≤ m.bytes.length := by
    rw [m.size_eq]
    exact h
  exact cut_eq hstop (by rw [m.size_eq]; exact hlimit)

theorem put_eq (h : start + new.length ≤ Message.size) : put m start new = some (m.write start new) := by
  unfold put
  rw [read_eq h]
  rfl

theorem mapM_eq_some {α β : Type} {f : α → Option β} {g : α → β} :
    ∀ {xs : List α}, (∀ x ∈ xs, f x = some (g x)) → xs.mapM f = some (xs.map g)
  | [], _ => rfl
  | x :: xs, h => by
    rw [List.mapM_cons, h x List.mem_cons_self, mapM_eq_some fun y hy => h y (List.mem_cons_of_mem _ hy)]
    rfl

/-- **Reading a table that ends inside the message** meets no fault. -/
theorem table_eq (h : start + count * width ≤ Message.size) :
    table m start width count = some (m.entries start width count) := by
  have hlimit : Message.size < wordLimit := by decide
  refine mapM_eq_some fun i hi => ?_
  have hstep : i * width + width ≤ count * width := by
    rw [← Nat.succ_mul]
    exact Nat.mul_le_mul_right _ (List.mem_range.1 hi)
  rw [behind_eq (by omega)]
  exact read_eq (by omega)

section tables

variable {α : Type} {encode : α → Bytes} (hw : ∀ x, (encode x).length = width)

include hw

theorem foldlM_putEntry : ∀ {xs : List α} {k : Nat} {m : Message}, start + (k + xs.length) * width ≤ Message.size →
    (xs.zipIdx k).foldlM (putEntry encode start width) m = some (m.write (start + k * width) (xs.flatMap encode))
  | [], k, m, _ => by
    rw [List.flatMap_nil, Message.write_nil]
    rfl
  | x :: xs, k, m, h => by
    -- one entry is written at its own place, and the rest right behind it in one piece
    have hlimit : Message.size < wordLimit := by decide
    have hx := hw x
    have hxs := Bytes.length_flatMap hw xs
    rw [List.length_cons, ← Nat.add_assoc, Nat.add_right_comm] at h
    have hroom := h
    rw [Nat.add_mul, Nat.succ_mul] at hroom
    have hput : putEntry encode start width m (x, k) = some (m.write (start + k * width) (encode x)) := by
      unfold putEntry
      dsimp only
      rw [behind_eq (by omega)]
      exact put_eq (by omega)
    rw [List.zipIdx_cons, List.foldlM_cons, hput]
    show (xs.zipIdx (k + 1)).foldlM _ _ = _
    rw [foldlM_putEntry h, List.flatMap_cons, ← Message.write_write_behind (by rw [List.length_append]; omega), hx,
      Nat.succ_mul, Nat.add_assoc]

/-- **Writing a table that ends inside the message** meets no fault, and writes the entries in one piece. -/
theorem putAll_eq {xs : List α} (h : start + xs.length * width ≤ Message.size) :
    putAll encode m start width xs = some (m.write start (xs.flatMap encode)) := by
  have hall : putAll encode m start width xs = some (m.write (start + 0 * width) (xs.flatMap encode)) :=
    foldlM_putEntry hw (by rw [Nat.zero_add]; exact h)
  rw [hall, Nat.zero_mul, Nat.add_zero]

end tables

end Guarded
end HorizonIpc
