import HorizonIpc.Proofs.Bytes.Word
import HorizonIpc.Proofs.Parcel.Name
import HorizonIpc.Proofs.Parcel.Restore
/-!
# Proofs.Parcel.Transfer — what one operation does to the unread bytes

A write extends one area by the bytes of its value and changes nothing else, or is refused (`Whole`), so that they stand
behind the unread bytes (`Writes`); a read removes them from the front (`Reads`), and a read of an area with less than
four bytes unread is refused (`Denied`).  These are closed under the ways in which operations are put together, so that
each operation is a few lines.
-/
namespace HorizonIpc
namespace Parcel

open Text (latinSize ofAscii)

/-- The two areas of a parcel. -/
inductive Half where
  | data
  | objects
  deriving DecidableEq

/-- The error of a write that an area has no room for. -/
def Half.full : Half → Error
  | data => .dataFull
  | objects => .objectsFull

def half (p : Parcel) : Half → Area
  | .data => p.data
  | .objects => p.objects

/-- The parcel with another area in place of one of its own. -/
def put (p : Parcel) : Half → Area → Parcel
  | .data, a => { p with data := a }
  | .objects, a => { p with objects := a }

@[simp] theorem half_put (p : Parcel) (h : Half) (a : Area) : (p.put h a).half h = a := by
  cases h <;> rfl

theorem half_put_of_ne (p : Parcel) {h h' : Half} (hne : h' ≠ h) (a : Area) : (p.put h a).half h' = p.half h' := by
  cases h <;> cases h' <;> first | rfl | exact absurd rfl hne

@[simp] theorem put_put (p : Parcel) (h : Half) (a b : Area) : (p.put h a).put h b = p.put h b := by
  cases h <;> rfl

@[simp] theorem put_half (p : Parcel) (h : Half) : p.put h (p.half h) = p := by
  cases h <;> rfl

/-- An attempt on one area as an attempt on the parcel. -/
def within {α : Type} (h : Half) (x : Attempt Area Error α) : Attempt Parcel Error α :=
  x.inside (fun p => p.half h) fun p a => p.put h a

variable {α β : Type} {h : Half} {x : Attempt Parcel Error α} {f : α → Attempt Parcel Error β} {bs cs : Bytes} {v : α}
  {w : β}

/-! ## Reading -/

/-- A read that removes the given bytes from the front of what is unread, and answers the given value. -/
def Reads (h : Half) (x : Attempt Parcel Error α) (bs : Bytes) (v : α) : Prop :=
  ∀ p rest, (p.half h).Sound → (p.half h).unread = bs ++ rest →
    ∃ a, x.on p = (.ok v, p.put h a) ∧ a.Sound ∧ a.unread = rest

/-- A read that fails and changes nothing where nothing is unread. -/
def Starves (h : Half) (x : Attempt Parcel Error α) : Prop :=
  ∀ p, (p.half h).Sound → (p.half h).unread = [] → x.on p = (.error .underflow, p)

/-- A read that fails and changes nothing where less than four bytes are unread. -/
def Denied (h : Half) (x : Attempt Parcel Error α) : Prop :=
  ∀ p, (p.half h).extent < (p.half h).cursor + 4 → x.on p = (.error .underflow, p)

theorem Reads.pure (v : α) : Reads h (pure v : Attempt Parcel Error α) [] v :=
  fun p _ hp hfront => ⟨p.half h, by rw [put_half]; rfl, hp, hfront⟩

/-- **One read after another** removes the bytes of both. -/
theorem Reads.bind (hx : Reads h x bs v) (hf : Reads h (f v) cs w) : Reads h (x >>= f) (bs ++ cs) w := by
  intro p rest hp hfront
  rw [List.append_assoc] at hfront
  obtain ⟨a, hrun, ha, hunread⟩ := hx p (cs ++ rest) hp hfront
  rw [← half_put p h a] at ha hunread
  obtain ⟨a', hrun', ha', hunread'⟩ := hf (p.put h a) rest ha hunread
  refine ⟨a', ?_, ha', hunread'⟩
  rw [Attempt.on_bind, hrun]
  show (f v).on (p.put h a) = _
  rw [hrun', put_put]

theorem Reads.map {g : α → β} (hx : Reads h x bs v) : Reads h (g <$> x) bs (g v) := by
  intro p rest hp hfront
  obtain ⟨a, hrun, ha, hunread⟩ := hx p rest hp hfront
  exact ⟨a, by rw [Attempt.on_map, hrun]; rfl, ha, hunread⟩

/-- A check that passes reads nothing. -/
theorem Reads.checked {r : Except Error α} (hr : r = .ok v) (hf : Reads h (f v) bs w) :
    Reads h (Attempt.ofExcept r >>= f) bs w := by
  subst hr
  exact hf

theorem Reads.atomically (hx : Reads h x bs v) : Reads h x.atomically bs v := by
  intro p rest hp hfront
  obtain ⟨a, hrun, ha, hunread⟩ := hx p rest hp hfront
  exact ⟨a, by rw [Attempt.on_atomically, hrun], ha, hunread⟩

theorem Denied.bind (hx : Denied h x) : Denied h (x >>= f) := fun p hshort => by
  rw [Attempt.on_bind, hx p hshort]

theorem Denied.map {g : α → β} (hx : Denied h x) : Denied h (g <$> x) := fun p hshort => by
  rw [Attempt.on_map, hx p hshort]
  rfl

theorem Denied.atomically (hx : Denied h x) : Denied h x.atomically := fun p hshort => by
  rw [Attempt.on_atomically, hx p hshort]

theorem Denied.starves (hx : Denied h x) : Starves h x := by
  intro p hp hnone
  have hlen := hp.length_unread
  rw [hnone, List.length_nil] at hlen
  exact hx p (by omega)

theorem reads_take (h : Half) (bs : Bytes) : Reads h (within h (Area.take bs.length)) (pad bs) bs := by
  intro p rest hp hfront
  obtain ⟨a, hrun, ha, hunread⟩ := Area.take_on hp hfront
  refine ⟨a, ?_, ha, hunread⟩
  unfold within
  rw [Attempt.on_inside, hrun]

theorem denied_take (h : Half) {len : Nat} (hpos : 0 < len) : Denied h (within h (Area.take len)) := by
  intro p hshort
  have hlen := le_padded len
  have hpadded := padded_mod len
  unfold within
  rw [Attempt.on_inside, Area.take_beyond (by omega), put_half]

theorem reads_data (bs : Bytes) : Reads .data (readData bs.length) (pad bs) bs := reads_take .data bs

theorem reads_object (bs : Bytes) : Reads .objects (readObject bs.length) (pad bs) bs := reads_take .objects bs

theorem denied_data {len : Nat} (hpos : 0 < len) : Denied .data (readData len) := denied_take .data hpos

theorem denied_object {len : Nat} (hpos : 0 < len) : Denied .objects (readObject len) := denied_take .objects hpos

theorem pad_ofUInt32 (v : UInt32) : pad (Bytes.ofUInt32 v) = Bytes.ofUInt32 v :=
  pad_of_mod (by rw [Bytes.length_ofUInt32])

theorem pad_ofUInt64 (v : UInt64) : pad (Bytes.ofUInt64 v) = Bytes.ofUInt64 v :=
  pad_of_mod (by rw [Bytes.length_ofUInt64])

theorem reads_uint32 (v : UInt32) : Reads .data readUInt32 (Bytes.ofUInt32 v) v := by
  have hread := (reads_data (Bytes.ofUInt32 v)).map (g := Bytes.toUInt32)
  rwa [pad_ofUInt32, Bytes.toUInt32_ofUInt32_self] at hread

theorem reads_int32 (v : Int32) : Reads .data readInt32 (Bytes.ofUInt32 v.toUInt32) v :=
  (reads_uint32 v.toUInt32).map

theorem reads_uint64 (v : UInt64) : Reads .data readUInt64 (Bytes.ofUInt64 v) v := by
  have hread := (reads_data (Bytes.ofUInt64 v)).map (g := Bytes.toUInt64)
  rwa [pad_ofUInt64, Bytes.toUInt64_ofUInt64_self] at hread

theorem reads_int64 (v : Int64) : Reads .data readInt64 (Bytes.ofUInt64 v.toUInt64) v :=
  (reads_uint64 v.toUInt64).map

theorem denied_int32 : Denied .data readInt32 := (denied_data (by decide)).map.map

/-- A length that a parcel can hold is read back as it was written. -/
theorem lengthOf_ofNat (len : Nat) (hlen : len ≤ capacity) :
    lengthOf (Int32.ofNat len) = .ok len ∧ Int32.ofNat len ≠ -1 := by
  have hsmall : len < 2 ^ 31 := Nat.lt_of_le_of_lt hlen (by decide)
  have hint : (Int32.ofNat len).toInt = len := Int32.toInt_ofNat_of_lt hsmall
  constructor
  · unfold lengthOf
    rw [hint, if_neg (by omega), Int.toNat_natCast]
  · intro heq
    rw [heq] at hint
    have hminus : (-1 : Int) = len := hint
    omega

def textImage (s : String) : Bytes :=
  Bytes.ofUInt32 (Int32.ofNat (Text.utf8 s).length).toUInt32 ++ pad (widen (Text.utf8 s) ++ [0, 0])

def tokenImage (name : String) : Bytes := Bytes.ofUInt32 tokenMarker.toUInt32 ++ textImage name

def flattenedImage (bs : Bytes) : Bytes :=
  Bytes.ofUInt32 (Int32.ofNat bs.length).toUInt32 ++ (Bytes.ofUInt32 0 ++ pad bs)

theorem length_units (s : String) : (widen (Text.utf8 s) ++ [0, 0]).length = textSize (Text.utf8 s).length := by
  rw [List.length_append, length_widen]
  rfl

theorem length_textImage (s : String) : (textImage s).length = 4 + padded (textSize (Text.utf8 s).length) := by
  unfold textImage
  rw [List.length_append, Bytes.length_ofUInt32, length_pad, length_units]

theorem length_tokenImage (s : String) : (tokenImage s).length = 8 + padded (textSize (Text.utf8 s).length) := by
  unfold tokenImage
  rw [List.length_append, Bytes.length_ofUInt32, length_textImage]
  omega

theorem length_flattenedImage (bs : Bytes) : (flattenedImage bs).length = 8 + padded bs.length := by
  unfold flattenedImage
  rw [List.length_append, List.length_append, Bytes.length_ofUInt32, Bytes.length_ofUInt32, length_pad]
  omega

/-- **A text is read back** as its bytes by every reader that has room for them. -/
theorem reads_widened {s : String} {room : Nat} (hroom : latinSize (Text.utf8 s) ≤ room)
    (hfit : (textImage s).length ≤ capacity) :
    Reads .data (readString16 room) (textImage s) (some (ofAscii (Text.utf8 s))) := by
  have hsize := length_textImage s
  have hpad := le_padded (textSize (Text.utf8 s).length)
  unfold textSize at hpad hsize
  obtain ⟨hlength, hsome⟩ := lengthOf_ofNat (Text.utf8 s).length (by omega)
  have hunits : (widen (Text.utf8 s) ++ [0, 0]).take (2 * (Text.utf8 s).length) = widen (Text.utf8 s) :=
    List.take_left' (length_widen _)
  have hread := reads_data (widen (Text.utf8 s) ++ [0, 0])
  rw [length_units] at hread
  refine Reads.atomically (Reads.bind (reads_int32 _) ?_)
  show Reads .data (if Int32.ofNat (Text.utf8 s).length = -1 then _ else _) _ _
  rw [if_neg hsome, ← List.append_nil (pad _)]
  refine Reads.checked hlength (Reads.bind hread (Reads.checked ?_ (Reads.pure _)))
  rw [hunits, decodeText_widen, if_pos hroom]

theorem reads_widenedToken {s : String} {room : Nat} (hroom : latinSize (Text.utf8 s) ≤ room)
    (hfit : (tokenImage s).length ≤ capacity) :
    Reads .data (readInterfaceToken room) (tokenImage s) (ofAscii (Text.utf8 s)) := by
  have hsize := length_tokenImage s
  have htext := length_textImage s
  have hname := reads_widened hroom (by omega)
  rw [readInterfaceToken_eq]
  refine Reads.atomically (Reads.bind (reads_int32 _) ?_)
  rw [← List.append_nil (textImage s)]
  exact Reads.bind hname (Reads.pure _)

/-- **An ASCII text is read back** as it was written. -/
theorem reads_string16 {s : String} {room : Nat} (hs : Text.IsAscii s) (hroom : (Text.utf8 s).length ≤ room)
    (hfit : (textImage s).length ≤ capacity) : Reads .data (readString16 room) (textImage s) (some s) := by
  have hread := reads_widened (hs.latinSize_le hroom) hfit
  rwa [Text.ofAscii_utf8 hs] at hread

theorem reads_interfaceToken {s : String} {room : Nat} (hs : Text.IsAscii s) (hroom : (Text.utf8 s).length ≤ room)
    (hfit : (tokenImage s).length ≤ capacity) : Reads .data (readInterfaceToken room) (tokenImage s) s := by
  have hread := reads_widenedToken (hs.latinSize_le hroom) hfit
  rwa [Text.ofAscii_utf8 hs] at hread

theorem reads_flattened {bs : Bytes} (hfit : (flattenedImage bs).length ≤ capacity) :
    Reads .data readFlattened (flattenedImage bs) bs := by
  have hsize := length_flattenedImage bs
  have hpad := le_padded bs.length
  obtain ⟨hlength, -⟩ := lengthOf_ofNat bs.length (by omega)
  refine Reads.atomically (Reads.bind (reads_int32 _) (Reads.bind (reads_int32 0) ?_))
  show Reads .data (if (0 : Int32) ≠ 0 then _ else _) _ _
  rw [if_neg (fun hne => hne rfl)]
  exact Reads.checked hlength (reads_data bs)

theorem denied_string16 {room : Nat} : Denied .data (readString16 room) := denied_int32.bind.atomically

theorem denied_interfaceToken {room : Nat} : Denied .data (readInterfaceToken room) := by
  rw [readInterfaceToken_eq]
  exact denied_int32.bind.atomically

theorem denied_flattened : Denied .data readFlattened := denied_int32.bind.atomically

/-! ## Writing -/

/-- A write that puts the given bytes behind what is unread if there is room. -/
def Appends (h : Half) (x : Attempt Parcel Error Unit) (bs : Bytes) : Prop :=
  ∀ p, (p.half h).Sound → bs.length ≤ (p.half h).free →
    ∃ a, x.on p = (.ok (), p.put h a) ∧ a.Sound ∧ a.unread = (p.half h).unread ++ bs ∧
      a.free = (p.half h).free - bs.length

/-- A write that puts the given bytes behind what is unread, or fails and changes nothing if there is no room. -/
structure Writes (h : Half) (x : Attempt Parcel Error Unit) (bs : Bytes) : Prop where
  appends : Appends h x bs
  refuses : ∀ p, (p.half h).free < bs.length → x.on p = (.error h.full, p)

/-- A write that extends an area by the given bytes if they fit it, and changes nothing else. -/
def Grows (h : Half) (x : Attempt Parcel Error Unit) (bs : Bytes) : Prop :=
  ∀ p, (p.half h).extent + bs.length ≤ capacity → x.on p = (.ok (), p.put h ((p.half h).extend bs))

/-- A write that extends an area by the given bytes and changes nothing else, or fails and changes nothing. -/
structure Whole (h : Half) (x : Attempt Parcel Error Unit) (bs : Bytes) : Prop where
  grows : Grows h x bs
  refuses : ∀ p, (p.half h).free < bs.length → x.on p = (.error h.full, p)

/-- **One write after another** extends the area by the bytes of both, if there is room for both. -/
theorem Grows.bind {x y : Attempt Parcel Error Unit} (hx : Grows h x bs) (hy : Grows h y cs) :
    Grows h (x >>= fun _ => y) (bs ++ cs) := by
  intro p hfit
  have hboth : (p.half h).extent + bs.length + cs.length ≤ capacity := by
    rw [List.length_append] at hfit
    omega
  have hsecond : ((p.put h ((p.half h).extend bs)).half h).extent + cs.length ≤ capacity := by
    rw [half_put]
    exact hboth
  rw [Attempt.on_bind, hx p (Nat.le_trans (Nat.le_add_right _ _) hboth)]
  show y.on (p.put h ((p.half h).extend bs)) = _
  rw [hy _ hsecond, half_put, put_put, Area.extend_extend hfit]

/-- **A check for the room of all** makes it one write: no part of it is refused once the first is written. -/
theorem Grows.whole {y : Attempt Parcel Error Unit} {len : Nat} (hy : Grows .data y bs) (hlen : len = bs.length) :
    Whole .data (needRoom len >>= fun _ => y) bs where
  grows p hfit := by
    have hgo : ¬ len > p.data.free := by
      have hdata : p.data.extent + bs.length ≤ capacity := hfit
      unfold Area.free
      omega
    unfold needRoom
    simp only [Attempt.on_bind, Attempt.on_get, hgo, if_false]
    exact hy p hfit
  refuses p hroom := by
    have hstop : len > p.data.free := hlen ▸ hroom
    unfold needRoom
    simp only [Attempt.on_bind, Attempt.on_get, hstop, if_true, Attempt.on_throw]
    rfl

/-- **A whole write** puts its bytes behind what is unread. -/
theorem Whole.writes {x : Attempt Parcel Error Unit} (hx : Whole h x bs) : Writes h x bs where
  appends p hp hroom := by
    have hextent := hp.extent_le
    have hfit : (p.half h).extent + bs.length ≤ capacity := by
      unfold Area.free at hroom
      omega
    exact ⟨_, hx.grows p hfit, hp.extend hfit, hp.unread_extend hfit, Area.free_extend _ _⟩
  refuses := hx.refuses

theorem whole_append (h : Half) (bs : Bytes) : Whole h (within h (Area.append h.full bs)) (pad bs) where
  grows p hfit := by
    unfold within
    rw [Attempt.on_inside, Area.append_on h.full hfit]
  refuses p hroom := by
    unfold within
    rw [Attempt.on_inside, Area.append_full h.full hroom, put_half]

theorem whole_data (bs : Bytes) : Whole .data (writeData bs) (pad bs) := whole_append .data bs

theorem whole_object (bs : Bytes) : Whole .objects (writeObject bs) (pad bs) := whole_append .objects bs

theorem whole_uint32 (v : UInt32) : Whole .data (writeUInt32 v) (Bytes.ofUInt32 v) := by
  have hwrite := whole_data (Bytes.ofUInt32 v)
  rwa [pad_ofUInt32] at hwrite

theorem whole_int32 (v : Int32) : Whole .data (writeInt32 v) (Bytes.ofUInt32 v.toUInt32) := whole_uint32 v.toUInt32

theorem whole_uint64 (v : UInt64) : Whole .data (writeUInt64 v) (Bytes.ofUInt64 v) := by
  have hwrite := whole_data (Bytes.ofUInt64 v)
  rwa [pad_ofUInt64] at hwrite

theorem whole_int64 (v : Int64) : Whole .data (writeInt64 v) (Bytes.ofUInt64 v.toUInt64) := whole_uint64 v.toUInt64

theorem whole_string16 (s : String) : Whole .data (writeString16 s) (textImage s) :=
  ((whole_int32 _).grows.bind (whole_data _).grows).whole (length_textImage s).symm

theorem whole_interfaceToken (s : String) : Whole .data (writeInterfaceToken s) (tokenImage s) :=
  ((whole_int32 _).grows.bind (whole_string16 s).grows).whole (length_tokenImage s).symm

theorem whole_flattened (bs : Bytes) : Whole .data (writeFlattened bs) (flattenedImage bs) :=
  ((whole_int32 _).grows.bind ((whole_int32 0).grows.bind (whole_data bs).grows)).whole
    (length_flattenedImage bs).symm

end Parcel
end HorizonIpc
