import HorizonIpc.Parcel.Operation
import HorizonIpc.Proofs.Guarded.Parcel
import HorizonIpc.Proofs.Guarded.Trial
import HorizonIpc.Proofs.Parcel.Transfer
/-!
# Proofs.Guarded.Operation — no operation on a parcel can be a fault

Every operation is repeated as a trial, with each sum, difference, product, slice and copy of it checked.  What keeps
them from being faults is that the cursors are within the extents and the extents within the areas: that much each
operation finds, and leaves behind, whatever came before it (`operations_faultless`).  A read checks its own sums, so
one that is too large is a read past the end; the sums of a write rest on the length of what is written.
-/
namespace HorizonIpc
namespace Guarded

open Bytes (zeros)
open Parcel (Area Operation)

namespace Trial

/-! ## the guarded operations -/

/-- The length of a value with the padding behind it. -/
def align4 (len : Nat) : Option Nat := do
  let stop ← sum len 3
  return stop / 4 * 4

/-- The largest length that a signed word can tell. -/
def maxLength : Nat := 0x7FFFFFFF

/-- Claims `len` bytes and their padding behind what was written, all of them zeros, and answers where they start. -/
def claim (full : Parcel.Error) (len : Nat) : Trial Area Parcel.Error Nat := do
  let a ← get
  let padded ← step (align4 len)
  let free ← step (difference Parcel.capacity a.extent)
  if padded > free then throw full else
  let stop ← step (sum a.extent padded)
  let _ ← step (fill a.cells a.extent stop (zeros padded))
  let _ ← step (cut a.cells a.extent len)
  set (a.extend (zeros padded))
  return a.extent

/-- Copies a value to a place of the area. -/
def copy (start : Nat) (new : Bytes) : Trial Area Parcel.Error Unit := do
  let a ← get
  let _ ← step (paste a.cells start new)
  set { a with
    cells := a.cells.overlay start new
    cells_length := (Bytes.length_overlay _ _ _).trans a.cells_length }

/-- Claims `len` bytes and copies a value to their start. -/
def append (full : Parcel.Error) (len : Nat) (new : Bytes) : Trial Area Parcel.Error Unit := do
  let start ← claim full len
  copy start new

def onData {α : Type} (x : Trial Area Parcel.Error α) : Trial Parcel Parcel.Error α :=
  x.inside Parcel.data fun p a => { p with data := a }

def onObjects {α : Type} (x : Trial Area Parcel.Error α) : Trial Parcel Parcel.Error α :=
  x.inside Parcel.objects fun p a => { p with objects := a }

/-- Claims part of the data area, if a signed word can tell how much. -/
def appendData (len : Nat) (new : Bytes) : Trial Parcel Parcel.Error Unit :=
  if len > maxLength then throw .dataFull else onData (append .dataFull len new)

def writeData (bs : Bytes) : Trial Parcel Parcel.Error Unit := appendData bs.length bs

def writeObject (bs : Bytes) : Trial Parcel Parcel.Error Unit := onObjects (append .objectsFull bs.length bs)

def writeUInt32 (v : UInt32) : Trial Parcel Parcel.Error Unit := writeData (Bytes.ofUInt32 v)

def writeInt32 (v : Int32) : Trial Parcel Parcel.Error Unit := writeUInt32 v.toUInt32

def writeUInt64 (v : UInt64) : Trial Parcel Parcel.Error Unit := writeData (Bytes.ofUInt64 v)

def writeInt64 (v : Int64) : Trial Parcel Parcel.Error Unit := writeUInt64 v.toUInt64

/-- Fails unless there is room for `front` bytes and a value of `len` bytes with its padding. -/
def needRoom (front len : Nat) : Trial Parcel Parcel.Error Unit := do
  let p ← get
  let total ← step (do sum front (← align4 len))
  let free ← step (difference Parcel.capacity p.data.extent)
  if total > free then throw .dataFull else return ()

/-- The size of a text of that many bytes behind its length. -/
def textSize (len : Nat) : Option Nat := do product (← sum len 1) 2

/-- Writes a text; the units are written one by one into what was claimed for them. -/
def writeString16 (s : String) : Trial Parcel Parcel.Error Unit := do
  let bs := Text.utf8 s
  let size ← step (textSize bs.length)
  needRoom 4 size
  writeInt32 (Int32.ofNat bs.length)
  appendData size (Parcel.widen bs)

def writeInterfaceToken (name : String) : Trial Parcel Parcel.Error Unit := do
  let size ← step (textSize (Text.utf8 name).length)
  needRoom 8 size
  writeInt32 Parcel.tokenMarker
  writeString16 name

def writeFlattened (bs : Bytes) : Trial Parcel Parcel.Error Unit :=
  if bs.length > maxLength then throw .dataFull else do
    needRoom 8 bs.length
    writeInt32 (Int32.ofNat bs.length)
    writeInt32 0
    writeData bs

/-- Where a read of `len` bytes ends, if it can be counted. -/
def readStop (cursor len : Nat) : Option Nat := do sum cursor (← align4 len)

/-- Reads `len` bytes; where the read ends is counted with care, and where the value ends is not. -/
def take (len : Nat) : Trial Area Parcel.Error Bytes := do
  let a ← get
  let written ← step (slice a.cells 0 a.extent)
  match readStop a.cursor len with
  | none => throw .underflow
  | some stop =>
    if stop > written.length then throw .underflow else
    let out ← step (cut written a.cursor len)
    set { a with cursor := stop }
    return out

def readData (len : Nat) : Trial Parcel Parcel.Error Bytes := onData (take len)

def readObject (len : Nat) : Trial Parcel Parcel.Error Bytes := onObjects (take len)

/-- Reads `len` bytes into an array of that length. -/
def readArray (len : Nat) : Trial Parcel Parcel.Error Bytes := do
  let bs ← readData len
  step (fill (zeros len) 0 len bs)

def readUInt32 : Trial Parcel Parcel.Error UInt32 := Bytes.toUInt32 <$> readArray 4

def readInt32 : Trial Parcel Parcel.Error Int32 := UInt32.toInt32 <$> readUInt32

def readUInt64 : Trial Parcel Parcel.Error UInt64 := Bytes.toUInt64 <$> readArray 8

def readInt64 : Trial Parcel Parcel.Error Int64 := UInt64.toInt64 <$> readUInt64

/-- Reads a text; a length whose units cannot be counted would be refused. -/
def readString16 (room : Nat) : Trial Parcel Parcel.Error (Option String) := atomically do
  let len ← readInt32
  if len = -1 then return none else
  let len ← ofExcept (Parcel.lengthOf len)
  match textSize len with
  | none => throw .invalidLength
  | some size =>
    let bs ← readData size
    let text ← step (do slice bs 0 (← product len 2))
    let s ← ofExcept (Parcel.decodeText room (Text.Utf16.units text))
    return some s

def readInterfaceToken (room : Nat) : Trial Parcel Parcel.Error String := atomically do
  let _ ← readInt32
  match ← readString16 room with
  | some name => return name
  | none => throw .nullInterfaceToken

def readFlattened : Trial Parcel Parcel.Error Bytes := atomically do
  let len ← readInt32
  let fds ← readInt32
  if fds ≠ 0 then throw .fdsNotSupported else
  let len ← ofExcept (Parcel.lengthOf len)
  readData len

def perform : Operation → Trial Parcel Parcel.Error Parcel.Answer
  | .writeData bs => (fun _ => .done) <$> writeData bs
  | .writeInt32 v => (fun _ => .done) <$> writeInt32 v
  | .writeUInt32 v => (fun _ => .done) <$> writeUInt32 v
  | .writeInt64 v => (fun _ => .done) <$> writeInt64 v
  | .writeUInt64 v => (fun _ => .done) <$> writeUInt64 v
  | .writeString16 s => (fun _ => .done) <$> writeString16 s
  | .writeInterfaceToken s => (fun _ => .done) <$> writeInterfaceToken s
  | .writeFlattened bs => (fun _ => .done) <$> writeFlattened bs
  | .writeObject bs => (fun _ => .done) <$> writeObject bs
  | .readData len => .bytes <$> readData len
  | .readInt32 => .int32 <$> readInt32
  | .readUInt32 => .uint32 <$> readUInt32
  | .readInt64 => .int64 <$> readInt64
  | .readUInt64 => .uint64 <$> readUInt64
  | .readString16 room => .text <$> readString16 room
  | .readInterfaceToken room => (fun s => .text (some s)) <$> readInterfaceToken room
  | .readFlattened => .bytes <$> readFlattened
  | .readObject len => .bytes <$> readObject len
  | .readStatus =>
    (fun r => .status (match r with | .ok () => none | .error e => some e)) <$> (RemoteError.check <$> readInt32)
  | .rewind => (fun _ => .done) <$> (modify Parcel.rewind : Trial Parcel Parcel.Error PUnit)
  | .clear => (fun _ => .done) <$> (modify Parcel.clear : Trial Parcel Parcel.Error PUnit)
  | .serialize staging => do
    let p ← get
    let (outcome, staging) ← step (serialize p staging)
    let used ← ofExcept outcome
    return .staged used staging
  | .deserialize received => (fun _ => .done) <$> ofRun (deserialize received)

/-! ## they meet no fault -/

section area

variable {a : Area} {len : Nat} {new : Bytes} (full : Parcel.Error)

theorem align4_eq (h : len + 3 < wordLimit) : align4 len = some (Parcel.padded len) := by
  unfold align4
  rw [sum_eq h]
  rfl

theorem claim_full (hlen : len + 3 < wordLimit) (ha : a.Sound) (hfull : a.free < Parcel.padded len) :
    (claim full len).on a = some (.error full, a) := by
  have hfree : difference Parcel.capacity a.extent = some a.free := difference_eq ha.extent_le
  unfold claim
  simp only [on_bind, on_get, align4_eq hlen, hfree, on_step_some, Option.bind_some, gt_iff_lt, hfull, if_true, on_throw]

theorem cells_lt (a : Area) : a.cells.length < wordLimit := by
  rw [a.cells_length]
  decide

theorem claim_on (hlen : len + 3 < wordLimit) (ha : a.Sound) (hroom : Parcel.padded len ≤ a.free) :
    (claim full len).on a = some (.ok a.extent, a.extend (zeros (Parcel.padded len))) := by
  have hextent := ha.extent_le
  have hle := Parcel.le_padded len
  have hlimit := cells_lt a
  have hcells : a.extent + Parcel.padded len ≤ a.cells.length := by
    rw [a.cells_length]
    unfold Area.free at hroom
    omega
  have hfree : difference Parcel.capacity a.extent = some a.free := difference_eq hextent
  have hstop : sum a.extent (Parcel.padded len) = some (a.extent + Parcel.padded len) := sum_eq (by omega)
  have hfill : fill a.cells a.extent (a.extent + Parcel.padded len) (zeros (Parcel.padded len)) = some _ :=
    fill_eq hcells (by rw [Bytes.length_zeros])
  have hpart : cut a.cells a.extent len = some _ := cut_eq (by omega) hlimit
  unfold claim
  simp only [on_bind, on_get, align4_eq hlen, hfree, on_step_some, Option.bind_some, gt_iff_lt, Nat.not_lt.2 hroom,
    if_false, hstop, hfill, hpart, on_set, on_pure]

/-- **What is copied over claimed zeros** stands there as if it had been appended with them. -/
theorem copy_on (hnew : new.length ≤ len) (ha : a.extent + len ≤ Parcel.capacity) :
    (copy a.extent new).on (a.extend (zeros len)) =
      some (.ok (), a.extend (new ++ zeros (len - new.length))) := by
  have hcells : a.extent + len ≤ a.cells.length := by
    rw [a.cells_length]
    exact ha
  have hpaste : paste (a.extend (zeros len)).cells a.extent new = some _ :=
    paste_eq (by rw [Area.cells_length, ← a.cells_length]; omega) (cells_lt _)
  have hover : (a.cells.overlay a.extent (zeros len)).overlay a.extent new = _ := Bytes.overlay_overlay_zeros hnew hcells
  have hext : (new ++ zeros (len - new.length)).length = (zeros len).length := by
    rw [List.length_append, Bytes.length_zeros, Bytes.length_zeros]
    omega
  unfold copy
  simp only [on_bind, on_get, hpaste, on_step_some, Option.bind_some, on_set]
  unfold Area.extend
  simp only [hover, hext]

/-- **An append meets no fault**: the value and the zeros behind it are written, or there is no room. -/
theorem follows_append (hlen : len + 3 < wordLimit) (hnew : new.length ≤ len) :
    Follows Area.Sound (append full len new) (Area.append full (new ++ zeros (len - new.length))) fun _ => True := by
  intro a ha
  have hbs : (new ++ zeros (len - new.length)).length = len := by
    rw [List.length_append, Bytes.length_zeros]
    omega
  have hpad : (Parcel.pad (new ++ zeros (len - new.length))).length = Parcel.padded len := by
    rw [Parcel.length_pad, hbs]
  refine ⟨?_, Area.keeps_append full _ a ha, fun _ _ => trivial⟩
  unfold append
  rcases Nat.lt_or_ge a.free (Parcel.padded len) with hfull | hroom
  · rw [on_bind, claim_full full hlen ha hfull, Area.append_full full (by rw [hpad]; exact hfull)]
    rfl
  · have hextent := ha.extent_le
    have hfit : a.extent + Parcel.padded len ≤ Parcel.capacity := by
      unfold Area.free at hroom
      omega
    have hle := Parcel.le_padded len
    have hsplit : zeros (Parcel.padded len - new.length) =
        zeros (len - new.length) ++ zeros (Parcel.padded len - len) := by
      rw [← Bytes.zeros_add]
      congr 1
      omega
    rw [on_bind, claim_on full hlen ha hroom, Area.append_on full (by rw [hpad]; exact hfit), Parcel.pad, hbs,
      List.append_assoc, ← hsplit]
    exact copy_on (Nat.le_trans hnew hle) hfit

theorem readStop_eq (cursor len : Nat) :
    readStop cursor len = some (cursor + Parcel.padded len) ∨
      readStop cursor len = none ∧ Parcel.capacity < cursor + Parcel.padded len := by
  have hle := Parcel.le_padded len
  have hsmall : Parcel.capacity + 3 < wordLimit := by decide
  unfold readStop
  by_cases hlen : len + 3 < wordLimit
  · rw [align4_eq hlen, Option.bind_eq_bind, Option.bind_some]
    by_cases hstop : cursor + Parcel.padded len < wordLimit
    · exact .inl (sum_eq hstop)
    · exact .inr ⟨if_neg hstop, by omega⟩
  · have hnone : align4 len = none := by
      unfold align4 sum
      rw [if_neg hlen]
      rfl
    rw [hnone]
    exact .inr ⟨rfl, by omega⟩

/-- **So does a read**, whatever the length that is asked for. -/
theorem follows_take (len : Nat) :
    Follows Area.Sound (take len) (Area.take len) fun bs => bs.length = len := by
  intro a ha
  have hextent := ha.extent_le
  have hle := Parcel.le_padded len
  have hlimit : Parcel.capacity < wordLimit := by decide
  have hwritten : slice a.cells 0 a.extent = some a.written := slice_written hextent
  have hlen := Area.length_written hextent
  refine ⟨?_, Area.keeps_take len a ha, fun bs hbs => ?_⟩
  · unfold take
    rcases readStop_eq a.cursor len with hstop | ⟨hstop, hfar⟩
    · by_cases hbeyond : a.extent < a.cursor + Parcel.padded len
      · simp only [on_bind, on_get, Option.bind_some, hwritten, on_step_some, hstop, hlen, gt_iff_lt, hbeyond, if_true,
          on_throw, Area.take_beyond hbeyond]
      · have hend := Nat.le_of_not_lt hbeyond
        have hcut : cut a.written a.cursor len = some _ := cut_eq (by omega) (by omega)
        simp only [on_bind, on_get, Option.bind_some, hwritten, on_step_some, hstop, hlen, gt_iff_lt, hbeyond, if_false,
          hcut, on_set, on_pure, Area.take_inside hend]
        rfl
    · simp only [on_bind, on_get, Option.bind_some, hwritten, on_step_some, hstop, on_throw,
        Area.take_beyond (Nat.lt_of_le_of_lt hextent hfar)]
  · by_cases hbeyond : a.extent < a.cursor + Parcel.padded len
    · rw [Area.take_beyond hbeyond] at hbs
      cases hbs
    · rw [Area.take_inside (Nat.le_of_not_lt hbeyond)] at hbs
      cases hbs
      exact Bytes.length_window (by omega)

end area

section parcel

variable {α : Type} {x : Trial Area Parcel.Error α} {y : Attempt Area Parcel.Error α} {Q : α → Prop} {bs new : Bytes}
  {len front : Nat}

theorem follows_onData (h : Follows Area.Sound x y Q) : Follows Parcel.Sound (onData x) (Parcel.onData y) Q :=
  h.inside (fun _ hp => hp.data) fun _ _ hp ha => ⟨ha, hp.objects⟩

theorem follows_onObjects (h : Follows Area.Sound x y Q) : Follows Parcel.Sound (onObjects x) (Parcel.onObjects y) Q :=
  h.inside (fun _ hp => hp.objects) fun _ _ hp ha => ⟨hp.data, ha⟩

theorem follows_needRoom (h : front + len + 3 < wordLimit) :
    Follows Parcel.Sound (needRoom front len) (Parcel.needRoom (front + Parcel.padded len)) fun _ => True := by
  intro p hp
  have hlt : Parcel.padded len < len + 4 := alignUp_lt (by decide) len
  have hfree : difference Parcel.capacity p.data.extent = some p.data.free := difference_eq hp.data.extent_le
  have htotal : (do sum front (← align4 len)) = some (front + Parcel.padded len) := by
    rw [align4_eq (by omega)]
    exact sum_eq (by omega)
  unfold needRoom Parcel.needRoom
  by_cases hfull : front + Parcel.padded len > p.data.free
  · simp [htotal, hfree, hfull, hp]
  · simp [htotal, hfree, hfull, hp]

/-- **What no signed word can tell** has no room either. -/
theorem follows_appendData (hlen : len + 3 < wordLimit) (hnew : new.length ≤ len) :
    Follows Parcel.Sound (appendData len new) (Parcel.writeData (new ++ zeros (len - new.length))) fun _ => True := by
  unfold appendData
  by_cases hlarge : len > maxLength
  · intro p hp
    have hpad : Parcel.capacity < (Parcel.pad (new ++ zeros (len - new.length))).length := by
      have hle := Parcel.le_padded len
      have hmax : Parcel.capacity < maxLength := by decide
      rw [Parcel.length_pad, List.length_append, Bytes.length_zeros, Nat.add_sub_cancel' hnew]
      omega
    have hfull : (Parcel.writeData (new ++ zeros (len - new.length))).on p = (.error .dataFull, p) := by
      unfold Parcel.writeData Parcel.onData
      rw [Attempt.on_inside, Area.append_full _ (Nat.lt_of_le_of_lt (Nat.sub_le _ _) hpad)]
    rw [if_pos hlarge, hfull]
    exact ⟨rfl, hp, nofun⟩
  · rw [if_neg hlarge]
    exact follows_onData (follows_append .dataFull hlen hnew)

theorem zeros_behind (bs : Bytes) : bs ++ zeros (bs.length - bs.length) = bs := by
  rw [Nat.sub_self]
  exact List.append_nil bs

theorem follows_writeData (h : bs.length < 2 ^ 62) :
    Follows Parcel.Sound (writeData bs) (Parcel.writeData bs) fun _ => True := by
  have hlimit : 2 ^ 64 = wordLimit := rfl
  have hall := follows_appendData (show bs.length + 3 < wordLimit by omega) (Nat.le_refl bs.length)
  rwa [zeros_behind] at hall

theorem follows_writeObject (h : bs.length < 2 ^ 62) :
    Follows Parcel.Sound (writeObject bs) (Parcel.writeObject bs) fun _ => True := by
  have hlimit : 2 ^ 64 = wordLimit := rfl
  have hall := follows_append .objectsFull (show bs.length + 3 < wordLimit by omega) (Nat.le_refl bs.length)
  rw [zeros_behind] at hall
  exact follows_onObjects hall

theorem follows_writeUInt32 (v : UInt32) : Follows Parcel.Sound (writeUInt32 v) (Parcel.writeUInt32 v) fun _ => True :=
  follows_writeData (by rw [Bytes.length_ofUInt32]; decide)

theorem follows_writeUInt64 (v : UInt64) : Follows Parcel.Sound (writeUInt64 v) (Parcel.writeUInt64 v) fun _ => True :=
  follows_writeData (by rw [Bytes.length_ofUInt64]; decide)

theorem follows_writeInt32 (v : Int32) : Follows Parcel.Sound (writeInt32 v) (Parcel.writeInt32 v) fun _ => True :=
  follows_writeUInt32 v.toUInt32

theorem textSize_eq {len : Nat} (h : len < 2 ^ 62) : textSize len = some (Parcel.textSize len) := by
  have hlimit : 2 ^ 64 = wordLimit := rfl
  unfold textSize
  rw [sum_eq (by omega), Option.bind_eq_bind, Option.bind_some, product_eq (by omega), Nat.mul_comm]
  rfl

theorem follows_writeString16 {s : String} (h : (Text.utf8 s).length < 2 ^ 62) :
    Follows Parcel.Sound (writeString16 s) (Parcel.writeString16 s) fun _ => True := by
  have hlimit : 2 ^ 64 = wordLimit := rfl
  have hsize : Parcel.textSize (Text.utf8 s).length = 2 * ((Text.utf8 s).length + 1) := rfl
  have hunits := Parcel.length_widen (Text.utf8 s)
  have hzeros : zeros (Parcel.textSize (Text.utf8 s).length - (Parcel.widen (Text.utf8 s)).length) = [0, 0] := by
    rw [hsize, hunits, Nat.mul_succ, Nat.add_sub_cancel_left]
    rfl
  refine .step (textSize_eq h) (.bind (follows_needRoom (by omega)) fun _ _ =>
    .bind (follows_writeInt32 _) fun _ _ => ?_)
  rw [← hzeros]
  exact follows_appendData (by omega) (by omega)

theorem follows_writeInterfaceToken {name : String} (h : (Text.utf8 name).length < 2 ^ 62) :
    Follows Parcel.Sound (writeInterfaceToken name) (Parcel.writeInterfaceToken name) fun _ => True := by
  have hlimit : 2 ^ 64 = wordLimit := rfl
  have hsize : Parcel.textSize (Text.utf8 name).length = 2 * ((Text.utf8 name).length + 1) := rfl
  exact .step (textSize_eq h) (.bind (follows_needRoom (by omega)) fun _ _ =>
    .bind (follows_writeInt32 _) fun _ _ => follows_writeString16 h)

theorem follows_writeFlattened (h : bs.length < 2 ^ 62) :
    Follows Parcel.Sound (writeFlattened bs) (Parcel.writeFlattened bs) fun _ => True := by
  have hlimit : 2 ^ 64 = wordLimit := rfl
  unfold writeFlattened
  by_cases hlarge : bs.length > maxLength
  · intro p hp
    have hfull : 8 + Parcel.padded bs.length > p.data.free := by
      have hle := Parcel.le_padded bs.length
      have hmax : Parcel.capacity < maxLength := by decide
      unfold Area.free
      omega
    rw [if_pos hlarge]
    unfold Parcel.writeFlattened Parcel.needRoom
    simp [hfull, hp]
  · rw [if_neg hlarge]
    exact .bind (follows_needRoom (by omega)) fun _ _ => .bind (follows_writeInt32 _) fun _ _ =>
      .bind (follows_writeInt32 _) fun _ _ => follows_writeData (by omega)

theorem follows_readData (len : Nat) :
    Follows Parcel.Sound (readData len) (Parcel.readData len) fun bs => bs.length = len :=
  follows_onData (follows_take len)

theorem follows_readArray (len : Nat) :
    Follows Parcel.Sound (readArray len) (Parcel.readData len) fun bs => bs.length = len := by
  have hfill : ∀ bs : Bytes, bs.length = len → fill (zeros len) 0 len bs = some bs := by
    intro bs hbs
    rw [fill_eq (Nat.le_of_eq (Bytes.length_zeros len).symm) (by omega), Bytes.overlay_whole (by rw [hbs, Bytes.length_zeros])]
  exact (follows_readData len).checked hfill

theorem follows_readInt32 : Follows Parcel.Sound readInt32 Parcel.readInt32 fun _ => True :=
  (follows_readArray 4).mapped.mapped

theorem lengthOf_lt {v : Int32} {n : Nat} (h : Parcel.lengthOf v = .ok n) : n < 2 ^ 31 := by
  have hlt := v.toInt_lt
  unfold Parcel.lengthOf at h
  split at h
  · cases h
  · cases h
    omega

theorem follows_readString16 (room : Nat) :
    Follows Parcel.Sound (readString16 room) (Parcel.readString16 room) fun _ => True := by
  have hlimit : 2 ^ 64 = wordLimit := rfl
  refine .atomically <| .bind follows_readInt32 fun v _ => .ite (fun _ => .pure trivial) fun _ =>
    .bind (.ofExcept fun _ => lengthOf_lt) fun n hn => ?_
  rw [textSize_eq (Nat.lt_trans hn (by decide))]
  refine .bind (follows_readData _) fun bs hbs => .step (b := bs.take (2 * n)) ?_ (.bind (.ofExcept fun _ _ => trivial)
    fun _ _ => .pure trivial)
  rw [product_eq (by omega), Option.bind_eq_bind, Option.bind_some, Nat.mul_comm]
  exact slice_zero (by rw [hbs, Parcel.textSize]; omega)

theorem follows_readInterfaceToken (room : Nat) :
    Follows Parcel.Sound (readInterfaceToken room) (Parcel.readInterfaceToken room) fun _ => True := by
  rw [Parcel.readInterfaceToken_eq]
  exact .atomically <| .bind follows_readInt32 fun _ _ => .bind (follows_readString16 room) fun
    | some _, _ => .pure trivial
    | none, _ => .throw _

theorem follows_readFlattened : Follows Parcel.Sound readFlattened Parcel.readFlattened fun _ => True := by
  refine .atomically <| .bind follows_readInt32 fun len _ => .bind follows_readInt32 fun _ _ =>
    .ite (fun _ => ?fds) fun _ => ?plain
  case fds => exact fun p hp => ⟨rfl, hp, nofun⟩
  case plain => exact .bind (.ofExcept fun _ _ => trivial) fun n _ => (follows_readData n).imp fun _ _ => trivial

theorem follows_serialize (staging : Bytes) :
    Follows Parcel.Sound (perform (.serialize staging)) (Parcel.perform (.serialize staging)) fun _ => True := by
  intro p hp
  refine ⟨?_, Parcel.keeps_perform _ p hp, fun _ _ => trivial⟩
  unfold perform Parcel.perform
  simp only [on_bind, on_get, Option.bind_some, serialize_eq hp.bounded staging, on_step_some, on_ofExcept,
    Attempt.on_bind, Attempt.on_get, Attempt.on_ofExcept]
  rcases p.serialize.on staging with ⟨e | used, staged⟩
  · rfl
  · rfl

theorem follows_deserialize (received : Bytes) :
    Follows Parcel.Sound (ofRun (deserialize received)) (Parcel.deserialize received) fun _ => True := by
  intro p hp
  have hend := Parcel.keeps_perform (.deserialize received) p hp
  unfold Parcel.perform at hend
  rw [Attempt.on_map] at hend
  exact ⟨deserialize_eq received p, hend, fun _ _ => trivial⟩

end parcel

/-- The sizes that the arguments of an operation can have: what is written is no longer than a quarter of the memory
that a machine word can count. -/
def Sized : Operation → Prop
  | .writeData bs | .writeFlattened bs | .writeObject bs => bs.length < 2 ^ 62
  | .writeString16 s | .writeInterfaceToken s => (Text.utf8 s).length < 2 ^ 62
  | _ => True

/-- **Every operation** meets no fault on a parcel whose areas are sound, and leaves them sound. -/
theorem follows_perform : ∀ {op : Operation}, Sized op →
    Follows Parcel.Sound (perform op) (Parcel.perform op) fun _ => True
  | .writeData _, h => (follows_writeData h).mapped
  | .writeInt32 v, _ => (follows_writeInt32 v).mapped
  | .writeUInt32 v, _ => (follows_writeUInt32 v).mapped
  | .writeInt64 v, _ => (follows_writeUInt64 v.toUInt64).mapped
  | .writeUInt64 v, _ => (follows_writeUInt64 v).mapped
  | .writeString16 _, h => (follows_writeString16 h).mapped
  | .writeInterfaceToken _, h => (follows_writeInterfaceToken h).mapped
  | .writeFlattened _, h => (follows_writeFlattened h).mapped
  | .writeObject _, h => (follows_writeObject h).mapped
  | .readData len, _ => (follows_readData len).mapped
  | .readInt32, _ => follows_readInt32.mapped
  | .readUInt32, _ => (follows_readArray 4).mapped.mapped
  | .readInt64, _ => (follows_readArray 8).mapped.mapped.mapped
  | .readUInt64, _ => (follows_readArray 8).mapped.mapped
  | .readString16 room, _ => (follows_readString16 room).mapped
  | .readInterfaceToken room, _ => (follows_readInterfaceToken room).mapped
  | .readFlattened, _ => follows_readFlattened.mapped
  | .readObject len, _ => (follows_onObjects (follows_take len)).mapped
  | .readStatus, _ => follows_readInt32.mapped.mapped
  | .rewind, _ => (Follows.modify fun _ hp => ⟨hp.data.rewind, hp.objects.rewind⟩).mapped
  | .clear, _ => (Follows.modify fun p _ => ⟨p.data.sound_clear, p.objects.sound_clear⟩).mapped
  | .serialize staging, _ => follows_serialize staging
  | .deserialize received, _ => (follows_deserialize received).mapped

end Trial

/-- **No operation on a parcel can be a fault.**  Whatever was done to a parcel before, what failed and what was received
among it, its cursors stand where values start, at most at the extents, and these are at most the capacity; its contents
can be looked at, and no operation, with arguments of any size that there can be, meets a fault. -/
theorem operations_faultless {p : Parcel} (hp : p.Reachable) :
    (p.data.cursor ≤ p.data.extent ∧ p.data.extent ≤ 0x400 ∧ p.objects.cursor ≤ p.objects.extent ∧
      p.objects.extent ≤ 0x400 ∧ p.data.cursor % 4 = 0 ∧ p.objects.cursor % 4 = 0) ∧
    (slice p.data.cells 0 p.data.extent = some p.data.written ∧
      slice p.objects.cells 0 p.objects.extent = some p.objects.written) ∧
    ∀ op : Operation, Trial.Sized op → (Trial.perform op).on p = some ((Parcel.perform op).on p) := by
  obtain ⟨hdata, hobjects⟩ := hp.sound
  obtain ⟨hcursor, hcursor'⟩ := hp.cursor_mod
  refine ⟨⟨hdata.cursor_le, hdata.extent_le, hobjects.cursor_le, hobjects.extent_le, hcursor, hcursor'⟩,
    ⟨slice_written hdata.extent_le, slice_written hobjects.extent_le⟩, fun op hop => ?_⟩
  exact (Trial.follows_perform hop p hp.sound).1

/-- A reply leaves 1021 bytes of data, which are no whole words: two more bytes with their padding have no room, and the
longest read that can be asked for is a read past the end. -/
theorem operations_faultless_odd :
    let received := (Parcel.WireHeader.mk 0x3FD 16 1 16).encode ++ List.replicate 0x3FD 7
    let p := ((Parcel.perform (.deserialize received)).on .empty).2
    p.Reachable ∧ p.data.extent = 0x3FD ∧ p.objects.extent = 1 ∧ Trial.Sized (.writeData [1, 2]) ∧
      ((Trial.perform (.writeData [1, 2])).on p).map Prod.fst = some (.error .dataFull) ∧
      ((Trial.perform (.readData (wordLimit - 1))).on p).map Prod.fst = some (.error .underflow) := by
  intro received p
  have hp : p.Reachable := .step .fresh _
  have hsized : Trial.Sized (.writeData [1, 2]) := show 2 < 2 ^ 62 by decide
  obtain ⟨-, -, hrun⟩ := operations_faultless hp
  have hfull : ((Parcel.perform (.writeData [1, 2])).on p).1 = .error .dataFull := Attempt.eq_error (by decide +kernel)
  have hunder : ((Parcel.perform (.readData (wordLimit - 1))).on p).1 = .error .underflow :=
    Attempt.eq_error (by decide +kernel)
  refine ⟨hp, by decide +kernel, by decide +kernel, hsized, ?_, ?_⟩
  · rw [hrun _ hsized, Option.map_some, hfull]
  · rw [hrun (.readData (wordLimit - 1)) trivial, Option.map_some, hunder]

end Guarded
end HorizonIpc
