import HorizonIpc.Proofs.Parcel.Atomicity
import HorizonIpc.Proofs.Parcel.Fifo
import HorizonIpc.Proofs.Parcel.Residue
/-!
# Proofs.Parcel.Boundary — where the next value starts

Every write fills its value up to a multiple of four bytes and every read skips as many, so a value is read as it was
written if it starts on such a boundary.  The cursors never leave it.  The extents leave it in one place: the sizes of a
reply are its sender's, and one that is not a multiple of four is neither filled up nor refused.  `Operation.skew` is what
an operation makes of the distance from the boundary, and the extents after a run are as far off as these add up to
(`extent_run`).  The bytes behind the last boundary cannot be read; what is written next stands behind them, but is read
from the boundary, so it is read as something else (`boundary`).
-/
namespace HorizonIpc
namespace Parcel

open Attempt (Keeps)
open Text (latinSize ofAscii utf8)

variable {h : Half} {p p' : Parcel} {op write read : Operation} {answer : Answer} {image received : Bytes}

/-! ## The extents -/

/-- The size that a byte string declares for an area. -/
def declaredSize (received : Bytes) : Half → Nat
  | .data => headerWord received 0
  | .objects => headerWord received 2

/-- How far from a boundary an area ends after an operation, if it ended so far from one before. -/
def Operation.skew (h : Half) (before : Nat) : Operation → Nat
  | .clear => 0
  | .deserialize received => if Admissible received then declaredSize received h % 4 else before
  | _ => before

theorem Area.keeps_append_extent (full : Error) (bs : Bytes) (r : Nat) :
    Keeps (fun a => a.extent % 4 = r) (append full bs) := by
  intro a ha
  have hpadded := padded_mod bs.length
  unfold append
  by_cases hfull : padded bs.length > a.free
  · simpa [hfull] using ha
  · simp [hfull]
    omega

theorem Area.keeps_take_extent (len r : Nat) : Keeps (fun a => a.extent % 4 = r) (take len) := by
  intro a ha
  by_cases hbeyond : a.extent < a.cursor + padded len
  · rw [take_beyond hbeyond]
    exact ha
  · rw [take_inside (Nat.le_of_not_lt hbeyond)]
    exact ha

theorem steady_extent (r : Nat) : Steady fun a b => a = b ∧ a.extent % 4 = r :=
  steady_invariant (Area.keeps_append_extent · · r) (Area.keeps_take_extent · r) fun _ ha => ha

theorem Takable.length_eq {offset size : Nat} (ht : Takable received offset size) :
    (received.window offset size).length = size := by
  rcases ht with rfl | ⟨-, hend⟩
  · rfl
  · exact Bytes.length_window hend

theorem extent_of_not_resets (p : Parcel) (h : Half) (hop : op.resets = false) :
    (((perform op).on p).2.half h).extent % 4 = (p.half h).extent % 4 := by
  -- the areas may be off by different distances, so each keeps its own
  obtain ⟨-, hdata, hobjects⟩ := (steady_extent (p.data.extent % 4)).respects_perform
    (steady_extent (p.objects.extent % 4)) op hop p p ⟨⟨rfl, rfl⟩, ⟨rfl, rfl⟩⟩
  cases h with
  | data => exact hdata.2
  | objects => exact hobjects.2

theorem extent_deserialize (p : Parcel) (h : Half) (hr : Admissible received) :
    (((deserialize received).on p).2.half h).extent = declaredSize received h := by
  rw [deserialize_admissible hr]
  cases h with
  | data => exact hr.data.length_eq
  | objects => exact hr.objects.length_eq

/-- **One operation** moves the end of an area off a boundary as its skew says. -/
theorem extent_perform (p : Parcel) (h : Half) (op : Operation) :
    (((perform op).on p).2.half h).extent % 4 = op.skew h ((p.half h).extent % 4) := by
  cases op
  case clear => cases h <;> rfl
  case deserialize received =>
    unfold perform
    rw [Attempt.on_map]
    by_cases hr : Admissible received
    · rw [extent_deserialize p h hr, Operation.skew, if_pos hr]
    · rw [deserialize_not_admissible hr, Operation.skew, if_neg hr]
  all_goals exact extent_of_not_resets p h rfl

/-- **A run** moves it as the skews of its operations say, one after another. -/
theorem extent_run : ∀ (ops : List Operation) (p : Parcel),
    ((run ops p).2.half h).extent % 4 = ops.foldl (Operation.skew h) ((p.half h).extent % 4)
  | [], _ => rfl
  | op :: ops, p => by
    rw [List.foldl_cons, ← extent_perform]
    exact extent_run ops _

theorem reachable_run : ∀ (ops : List Operation) {p : Parcel}, p.Reachable → (run ops p).2.Reachable
  | [], _, hp => hp
  | op :: ops, _, hp => reachable_run ops (.step hp op)

/-- Every reply among the operations that is read declares a multiple of four as the size of an area. -/
def Tidy (h : Half) (ops : List Operation) : Prop :=
  ∀ received, .deserialize received ∈ ops → Admissible received → declaredSize received h % 4 = 0

/-- **Tidy replies** leave no skew. -/
theorem Tidy.skew_eq_zero : ∀ {ops : List Operation}, Tidy h ops → ops.foldl (Operation.skew h) 0 = 0
  | [], _ => rfl
  | op :: ops, htidy => by
    have hfirst : op.skew h 0 = 0 := by
      unfold Operation.skew
      split
      · rfl
      · rename_i received
        simpa using htidy received List.mem_cons_self
      · rfl
    rw [List.foldl_cons, hfirst]
    exact skew_eq_zero fun received hmem => htidy received (List.mem_cons_of_mem op hmem)

/-! ## Reading back -/

def writeBytes : Half → Bytes → Operation
  | .data, bs => .writeData bs
  | .objects, bs => .writeObject bs

def readBytes : Half → Nat → Operation
  | .data, len => .readData len
  | .objects, len => .readObject len

/-- Nothing more can be read: each read of at least one byte of the area fails. -/
def Exhausted (h : Half) (p : Parcel) : Prop := ∀ op, Demands h op → ∃ e, ((perform op).on p).1 = .error e

/-- A write, a read that matches it, and what is read: the value, and of a text that is not ASCII its bytes. -/
inductive ReadsBack : Half → Operation → Operation → Answer → Prop
  | value {v : Value} {read : Operation} (fits : v.ReadBy read) : ReadsBack v.half v.write read v.answer
  | text (s : String) {room : Nat} (h : latinSize (utf8 s) ≤ room) :
      ReadsBack .data (.writeString16 s) (.readString16 room) (.text (some (ofAscii (utf8 s))))
  | token (name : String) {room : Nat} (h : latinSize (utf8 name) ≤ room) :
      ReadsBack .data (.writeInterfaceToken name) (.readInterfaceToken room) (.text (some (ofAscii (utf8 name))))

/-- Whatever is written next to an area is what a matching read answers next. -/
def ReadBackNext (h : Half) (p : Parcel) : Prop :=
  ∀ write read answer p', ReadsBack h write read answer → (perform write).on p = (.ok .done, p') →
    ((perform read).on p').1 = .ok answer

theorem readBytes_inside {len : Nat} (hend : (p.half h).cursor + padded len ≤ (p.half h).extent) :
    ((perform (readBytes h len)).on p).1 = .ok (.bytes ((p.half h).unread.take len)) := by
  have hread : perform (readBytes h len) = .bytes <$> within h (Area.take len) := by cases h <;> rfl
  unfold within at hread
  rw [hread, Attempt.on_map, Attempt.on_inside, Area.take_inside hend]
  rfl

theorem exhausted_iff : Exhausted h p ↔ (p.half h).extent < (p.half h).cursor + 4 := by
  refine ⟨fun hdone => ?_, fun hshort op hd => ⟨_, congrArg Prod.fst (hd.denied p hshort)⟩⟩
  by_contra hlong
  have hdemand : Demands h (readBytes h 1) := by
    cases h with
    | data => exact .data Nat.one_pos
    | objects => exact .object Nat.one_pos
  obtain ⟨e, hfail⟩ := hdone _ hdemand
  rw [readBytes_inside (Nat.le_of_not_lt hlong)] at hfail
  cases hfail

theorem addition_mod (hop : op.addition = some (h, image)) : image.length % 4 = 0 := by
  rw [length_addition hop]
  cases op <;> simp [Operation.size, Nat.add_mod, padded_mod]

/-- **What was written** stands behind what was unread. -/
theorem unread_write (hp : (p.half h).Sound) (hop : op.addition = some (h, image))
    (hrun : (perform op).on p = (.ok .done, p')) :
    image.length ≤ (p.half h).free ∧ (p'.half h).Sound ∧ (p'.half h).unread = (p.half h).unread ++ image := by
  rcases Nat.lt_or_ge (p.half h).free image.length with hfull | hroom
  · rw [perform_full hop hfull] at hrun
    cases hrun
  · obtain ⟨x, hperform, hwhole⟩ := perform_of_addition hop
    obtain ⟨a, hdone, ha, hunread, -⟩ := hwhole.writes.appends p hp hroom
    rw [hperform, Attempt.on_map, hdone] at hrun
    cases hrun
    rw [half_put]
    exact ⟨hroom, ha, hunread⟩

theorem ReadsBack.reads (hback : ReadsBack h write read answer) : ∃ image,
    write.addition = some (h, image) ∧ (image.length ≤ capacity → Reads h (perform read) image answer) := by
  cases hback with
  | @value v _ fits =>
    have hadds : v.write.addition = some (v.half, v.image) := by cases v <;> rfl
    exact ⟨v.image, hadds, fits.reads⟩
  | text s hroom => exact ⟨textImage s, rfl, fun hfit => (reads_widened hroom hfit).map⟩
  | token name hroom => exact ⟨tokenImage name, rfl, fun hfit => (reads_widenedToken hroom hfit).map⟩

/-- **Where nothing is unread**, or no byte can be written, whatever is written is what is read next. -/
theorem readBackNext (hp : (p.half h).Sound) (hnext : (p.half h).unread = [] ∨ (p.half h).free < 4) :
    ReadBackNext h p := by
  intro write read answer p' hback hrun
  obtain ⟨image, hop, hreads⟩ := hback.reads
  obtain ⟨hroom, hp', hunread⟩ := unread_write hp hop hrun
  have hfree : (p.half h).free ≤ capacity := Nat.sub_le _ _
  have hfront : ∃ rest, (p'.half h).unread = image ++ rest := by
    rcases hnext with hnone | hfull
    · exact ⟨[], by rw [hunread, hnone, List.nil_append, List.append_nil]⟩
    · -- only a value of no bytes is written where no byte can be
      have hmod := addition_mod hop
      have hnil : image = [] := List.eq_nil_of_length_eq_zero (by omega)
      exact ⟨(p.half h).unread, by rw [hunread, hnil, List.nil_append, List.append_nil]⟩
  obtain ⟨rest, hfront⟩ := hfront
  obtain ⟨a, hread, -, -⟩ := hreads (by omega) p' rest hp' hfront
  rw [hread]

/-- **Where bytes are left over** and one can be written, some byte that is written is not what is read next. -/
theorem not_readBackNext (hp : (p.half h).Sound) (hleft : (p.half h).unread ≠ []) (hfree : 4 ≤ (p.half h).free) :
    ¬ ReadBackNext h p := by
  intro hback
  -- a byte is written that differs from the first one left over, which is the one that is read
  obtain ⟨b, rest, hunread⟩ := List.exists_cons_of_ne_nil hleft
  have hop : (writeBytes h [b + 1]).addition = some (h, pad [b + 1]) := by cases h <;> rfl
  have hvalue : ReadsBack h (writeBytes h [b + 1]) (readBytes h 1) (.bytes [b + 1]) := by
    cases h with
    | data => exact .value (.bytes [b + 1])
    | objects => exact .value (.object [b + 1])
  have hlen : (pad [b + 1]).length = padded 1 := length_pad [b + 1]
  have hfit : (p.half h).extent + (pad [b + 1]).length ≤ capacity := by
    have hextent := hp.extent_le
    have hfour : padded 1 = 4 := rfl
    unfold Area.free at hfree
    omega
  obtain ⟨p', hrun, happended⟩ := perform_fits hop hfit
  obtain ⟨-, -, hunread'⟩ := unread_write hp hop hrun
  have hend : (p'.half h).cursor + padded 1 ≤ (p'.half h).extent := by
    have hcursor := hp.cursor_le
    rw [happended.cursor, happended.extent, hlen]
    exact Nat.add_le_add_right hcursor _
  have hread := hback _ _ _ _ hvalue hrun
  rw [readBytes_inside hend, hunread', hunread] at hread
  simp at hread

theorem Area.Sound.length_unread_eq {a : Area} (ha : a.Sound) (hcursor : a.cursor % 4 = 0)
    (hshort : a.extent < a.cursor + 4) : a.unread.length = a.extent % 4 := by
  have hle := ha.cursor_le
  rw [ha.length_unread]
  omega

/-- **Values stay on a boundary as long as replies do.**  After any operations on the fresh parcel the cursors are multiples
of four, and an area ends as far from a multiple of four as the last clear or the last reply that was read has left it; so
on one if the replies are tidy, but a reply need not be.  Where no more can be read, the bytes behind the last boundary are
left over; if there are none, or no more can be written, whatever is written next is what is read next, and otherwise
something that is written is read as something else. -/
theorem boundary (ops : List Operation) (h : Half) :
    let p := (run ops .empty).2
    (p.half h).cursor % 4 = 0 ∧
      (p.half h).extent % 4 = ops.foldl (Operation.skew h) 0 ∧
      (Tidy h ops → (p.half h).extent % 4 = 0) ∧
      (Exhausted h p →
        (p.half h).unread.length = (p.half h).extent % 4 ∧
          (ReadBackNext h p ↔ (p.half h).extent % 4 = 0 ∨ (p.half h).free < 4)) := by
  intro p
  have hp : p.Reachable := reachable_run ops .fresh
  have hsound := hp.half_sound h
  have hcursor : (p.half h).cursor % 4 = 0 := by
    cases h with
    | data => exact hp.cursor_mod.1
    | objects => exact hp.cursor_mod.2
  have hextent : (p.half h).extent % 4 = ops.foldl (Operation.skew h) 0 := by
    have hstart : (half .empty h).extent % 4 = 0 := by cases h <;> rfl
    rw [extent_run, hstart]
  refine ⟨hcursor, hextent, fun htidy => hextent.trans htidy.skew_eq_zero, fun hdone => ?_⟩
  have hleft := hsound.length_unread_eq hcursor (exhausted_iff.1 hdone)
  refine ⟨hleft, fun hback => ?_, fun hnext => readBackNext hsound ?_⟩
  · by_contra hskewed
    refine not_readBackNext hsound (fun hnil => ?_) (by omega) hback
    rw [hnil, List.length_nil] at hleft
    omega
  · rcases hnext with hzero | hfull
    · exact .inl (List.eq_nil_of_length_eq_zero (hleft.trans hzero))
    · exact .inr hfull

/-- A reply of one word is tidy, and once the word is read the next value is read as it was written. -/
theorem boundary_word :
    let reply : Bytes := [4, 0, 0, 0, 16, 0, 0, 0, 0, 0, 0, 0, 20, 0, 0, 0, 1, 2, 3, 4]
    let ops : List Operation := [.deserialize reply, .readUInt32]
    let p := (run ops .empty).2
    Tidy .data ops ∧ Exhausted .data p ∧ p.data.extent % 4 = 0 ∧ ReadBackNext .data p := by
  intro reply ops p
  have htidy : Tidy .data ops := by
    intro received hmem _
    simp only [ops, List.mem_cons, List.not_mem_nil, reduceCtorEq, Operation.deserialize.injEq, or_false] at hmem
    rw [hmem]
    decide
  have hdone : Exhausted .data p := exhausted_iff.2 (by decide +kernel)
  obtain ⟨-, -, haligned, hnext⟩ := boundary ops .data
  exact ⟨htidy, hdone, haligned htidy, (hnext hdone).2.2 (.inl (haligned htidy))⟩

/-- A reply whose sender declared two bytes of data is read, and no read of the data succeeds; yet the word that is then
written is read with those bytes in front, and without its own last two. -/
theorem boundary_skewed :
    let reply : Bytes := [2, 0, 0, 0, 16, 0, 0, 0, 0, 0, 0, 0, 18, 0, 0, 0, 0x11, 0x22]
    let p := ((perform (.deserialize reply)).on .empty).2
    let p' := ((perform (.writeUInt32 0xAABBCCDD)).on p).2
    (perform (.deserialize reply)).on .empty = (.ok .done, p) ∧ p.Reachable ∧ p.data.extent % 4 = 2 ∧
      Exhausted .data p ∧ (perform (.writeUInt32 0xAABBCCDD)).on p = (.ok .done, p') ∧
      ((perform .readUInt32).on p').1 = .ok (.uint32 0xCCDD2211) := by
  intro reply p p'
  have hreply : (perform (.deserialize reply)).on .empty = (.ok .done, p) := Attempt.on_eq_ok (by decide +kernel)
  have hwrite : (perform (.writeUInt32 0xAABBCCDD)).on p = (.ok .done, p') := Attempt.on_eq_ok (by decide +kernel)
  have hread : (perform .readUInt32).on p' = (.ok (.uint32 0xCCDD2211), _) := Attempt.on_eq_ok (by decide +kernel)
  exact ⟨hreply, .step .fresh _, by decide +kernel, exhausted_iff.2 (by decide +kernel), hwrite, congrArg Prod.fst hread⟩

end Parcel
end HorizonIpc
