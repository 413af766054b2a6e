import HorizonIpc.Parcel.Operation
import HorizonIpc.Proofs.Parcel.Transfer
import Mathlib.Logic.Function.Basic
/-!
# Proofs.Parcel.Fifo — a parcel is two queues of values

`History p q` says that writes and reads, in any order, made the parcel `p` out of the fresh one, and that `q` are the
values of each area that were written and not read.  Some of the writes may have been refused, and each read was one
that fits the oldest unread value of its area.  Then each such read answers that value, and where nothing is unread
nothing is read (`fifo`).  The invariant is that the unread bytes of an area are the images of its unread values
(`Holds`).
-/
namespace HorizonIpc
namespace Parcel

/-- A value that can be written to a parcel. -/
inductive Value where
  | bytes (bs : Bytes)
  | int32 (v : Int32)
  | uint32 (v : UInt32)
  | int64 (v : Int64)
  | uint64 (v : UInt64)
  | text (s : String) (ascii : Text.IsAscii s)
  | token (name : String) (ascii : Text.IsAscii name)
  | flattened (bs : Bytes)
  | object (bs : Bytes)

namespace Value

def half : Value → Half
  | object _ => .objects
  | _ => .data

def image : Value → Bytes
  | bytes bs | object bs => pad bs
  | int32 v => Bytes.ofUInt32 v.toUInt32
  | uint32 v => Bytes.ofUInt32 v
  | int64 v => Bytes.ofUInt64 v.toUInt64
  | uint64 v => Bytes.ofUInt64 v
  | text s _ => textImage s
  | token name _ => tokenImage name
  | flattened bs => flattenedImage bs

def write : Value → Operation
  | bytes bs => .writeData bs
  | int32 v => .writeInt32 v
  | uint32 v => .writeUInt32 v
  | int64 v => .writeInt64 v
  | uint64 v => .writeUInt64 v
  | text s _ => .writeString16 s
  | token name _ => .writeInterfaceToken name
  | flattened bs => .writeFlattened bs
  | object bs => .writeObject bs

def answer : Value → Answer
  | bytes bs | flattened bs | object bs => .bytes bs
  | int32 v => .int32 v
  | uint32 v => .uint32 v
  | int64 v => .int64 v
  | uint64 v => .uint64 v
  | text s _ | token s _ => .text (some s)

/-- The reads that fit a value: those of its kind, of its length, and with room for its text. -/
inductive ReadBy : Value → Operation → Prop
  | bytes (bs : Bytes) : ReadBy (.bytes bs) (.readData bs.length)
  | int32 (v : Int32) : ReadBy (.int32 v) .readInt32
  | uint32 (v : UInt32) : ReadBy (.uint32 v) .readUInt32
  | int64 (v : Int64) : ReadBy (.int64 v) .readInt64
  | uint64 (v : UInt64) : ReadBy (.uint64 v) .readUInt64
  | text {s : String} (ascii : Text.IsAscii s) {room : Nat} (h : (Text.utf8 s).length ≤ room) :
      ReadBy (.text s ascii) (.readString16 room)
  | token {name : String} (ascii : Text.IsAscii name) {room : Nat} (h : (Text.utf8 name).length ≤ room) :
      ReadBy (.token name ascii) (.readInterfaceToken room)
  | flattened (bs : Bytes) : ReadBy (.flattened bs) .readFlattened
  | object (bs : Bytes) : ReadBy (.object bs) (.readObject bs.length)

def writer : Value → Attempt Parcel Error Unit
  | bytes bs => writeData bs
  | int32 v => writeInt32 v
  | uint32 v => writeUInt32 v
  | int64 v => writeInt64 v
  | uint64 v => writeUInt64 v
  | text s _ => writeString16 s
  | token name _ => writeInterfaceToken name
  | flattened bs => writeFlattened bs
  | object bs => writeObject bs

theorem perform_write (v : Value) : perform v.write = (fun _ => .done) <$> v.writer := by
  cases v <;> rfl

/-- **Every write** puts the image of its value behind what is unread, or is refused. -/
theorem writes_writer (v : Value) : Writes v.half v.writer v.image := by
  cases v with
  | bytes bs => exact (whole_data bs).writes
  | int32 v => exact (whole_int32 v).writes
  | uint32 v => exact (whole_uint32 v).writes
  | int64 v => exact (whole_int64 v).writes
  | uint64 v => exact (whole_uint64 v).writes
  | text s _ => exact (whole_string16 s).writes
  | token name _ => exact (whole_interfaceToken name).writes
  | flattened bs => exact (whole_flattened bs).writes
  | object bs => exact (whole_object bs).writes

/-- **A read that fits a value** takes its image off the front and answers the value. -/
theorem ReadBy.reads {v : Value} {op : Operation} (h : v.ReadBy op) (hfit : v.image.length ≤ capacity) :
    Reads v.half (perform op) v.image v.answer := by
  cases h with
  | bytes bs => exact (reads_data bs).map
  | int32 v => exact (reads_int32 v).map
  | uint32 v => exact (reads_uint32 v).map
  | int64 v => exact (reads_int64 v).map
  | uint64 v => exact (reads_uint64 v).map
  | text ascii hroom => exact (reads_string16 ascii hroom hfit).map
  | token ascii hroom => exact (reads_interfaceToken ascii hroom hfit).map
  | flattened bs => exact (reads_flattened hfit).map
  | object bs => exact (reads_object bs).map

end Value

/-- The reads of at least one byte of an area. -/
inductive Demands : Half → Operation → Prop
  | data {len : Nat} (h : 0 < len) : Demands .data (.readData len)
  | int32 : Demands .data .readInt32
  | uint32 : Demands .data .readUInt32
  | int64 : Demands .data .readInt64
  | uint64 : Demands .data .readUInt64
  | text (room : Nat) : Demands .data (.readString16 room)
  | token (room : Nat) : Demands .data (.readInterfaceToken room)
  | flattened : Demands .data .readFlattened
  | status : Demands .data .readStatus
  | object {len : Nat} (h : 0 < len) : Demands .objects (.readObject len)

/-- **A read of at least one byte** takes four at least. -/
theorem Demands.denied {h : Half} {op : Operation} (hd : Demands h op) : Denied h (perform op) := by
  cases hd with
  | data hpos => exact (denied_data hpos).map
  | int32 => exact denied_int32.map
  | uint32 => exact (denied_data (by decide)).map.map
  | int64 => exact (denied_data (by decide)).map.map.map
  | uint64 => exact (denied_data (by decide)).map.map
  | text room => exact denied_string16.map
  | token room => exact denied_interfaceToken.map
  | flattened => exact denied_flattened.map
  | status => exact denied_int32.map.map
  | object hpos => exact (denied_object hpos).map

/-- **A read of at least one byte** fails and changes nothing where nothing is unread. -/
theorem Demands.starves {h : Half} {op : Operation} (hd : Demands h op) : Starves h (perform op) := hd.denied.starves

/-- The unread values of each area, the oldest first. -/
abbrev Queues := Half → List Value

open Function (update)

/-- What writes and reads, in any order, make of the fresh parcel: the parcel, and the values written and not read. -/
inductive History : Parcel → Queues → Prop
  | start : History .empty fun _ => []
  | written {p p' : Parcel} {q : Queues} {v : Value} (before : History p q)
      (run : (perform v.write).on p = (.ok .done, p')) : History p' (update q v.half (q v.half ++ [v]))
  | refused {p p' : Parcel} {q : Queues} {v : Value} {e : Error} (before : History p q)
      (run : (perform v.write).on p = (.error e, p')) : History p' q
  | read {p p' : Parcel} {q : Queues} {h : Half} {v : Value} {rest : List Value} {op : Operation}
      {r : Except Error Answer} (before : History p q) (oldest : q h = v :: rest) (fits : v.ReadBy op)
      (run : (perform op).on p = (r, p')) : History p' (update q h rest)

/-- The unread bytes of each area are the images of its unread values. -/
structure Holds (p : Parcel) (q : Queues) : Prop where
  sound : ∀ h, (p.half h).Sound
  unread : ∀ h, (p.half h).unread = (q h).flatMap Value.image
  home : ∀ h, ∀ v ∈ q h, v.half = h

namespace Holds

variable {p : Parcel} {q : Queues}

theorem empty : Holds .empty fun _ => [] where
  sound h := by cases h <;> exact Area.sound_empty
  unread h := by cases h <;> exact Area.unread_empty
  home _ _ hv := nomatch hv

theorem put (hq : Holds p q) {h : Half} {a : Area} {vs : List Value} (ha : a.Sound)
    (hunread : a.unread = vs.flatMap Value.image) (hvs : ∀ v ∈ vs, v.half = h) : Holds (p.put h a) (update q h vs) := by
  constructor
  · intro h'
    by_cases hh : h' = h
    · subst hh
      rw [half_put]
      exact ha
    · rw [half_put_of_ne p hh]
      exact hq.sound h'
  · intro h'
    by_cases hh : h' = h
    · subst hh
      rw [half_put, Function.update_self]
      exact hunread
    · rw [half_put_of_ne p hh, Function.update_of_ne hh]
      exact hq.unread h'
  · intro h' v hv
    by_cases hh : h' = h
    · subst hh
      rw [Function.update_self] at hv
      exact hvs v hv
    · rw [Function.update_of_ne hh] at hv
      exact hq.home h' v hv

/-- **One write**: the value joins its queue, or the write is refused and nothing changes. -/
theorem write (hq : Holds p q) (v : Value) :
    (∃ p', (perform v.write).on p = (.ok .done, p') ∧ Holds p' (update q v.half (q v.half ++ [v]))) ∨
      (perform v.write).on p = (.error v.half.full, p) := by
  obtain ⟨happends, hrefuses⟩ := v.writes_writer
  rw [v.perform_write, Attempt.on_map]
  rcases Nat.lt_or_ge (p.half v.half).free v.image.length with hfull | hroom
  · rw [hrefuses p hfull]
    exact .inr rfl
  · obtain ⟨a, hrun, ha, hunread, -⟩ := happends p (hq.sound v.half) hroom
    refine .inl ⟨p.put v.half a, by rw [hrun]; rfl, hq.put ha ?_ ?_⟩
    · rw [hunread, hq.unread, List.flatMap_append, List.flatMap_singleton]
    · intro w hw
      rcases List.mem_append.1 hw with hold | hnew
      · exact hq.home v.half w hold
      · rw [List.mem_singleton.1 hnew]

/-- **One read** that fits the oldest value answers it and takes it off its queue. -/
theorem read (hq : Holds p q) {h : Half} {v : Value} {rest : List Value} {op : Operation} (oldest : q h = v :: rest)
    (fits : v.ReadBy op) : ∃ p', (perform op).on p = (.ok v.answer, p') ∧ Holds p' (update q h rest) := by
  have hhome : v.half = h := hq.home h v (oldest ▸ List.mem_cons_self)
  have hfront : (p.half h).unread = v.image ++ rest.flatMap Value.image := by
    rw [hq.unread, oldest, List.flatMap_cons]
  have hfit : v.image.length ≤ capacity := by
    have hlen := (hq.sound h).length_unread_le
    rw [hfront, List.length_append] at hlen
    omega
  have hreads := fits.reads hfit
  rw [hhome] at hreads
  obtain ⟨a, hrun, ha, hunread⟩ := hreads p _ (hq.sound h) hfront
  exact ⟨p.put h a, hrun, hq.put ha hunread fun w hw => hq.home h w (oldest ▸ List.mem_cons_of_mem v hw)⟩

end Holds

/-- **Every history keeps the invariant.** -/
theorem History.holds {p : Parcel} {q : Queues} (hist : History p q) : Holds p q := by
  induction hist with
  | start => exact .empty
  | @written p p' q v before run ih =>
    rcases ih.write v with ⟨p'', hrun, hq⟩ | hrun
    · rw [run] at hrun
      rw [(Prod.mk.inj hrun).2]
      exact hq
    · rw [run] at hrun
      exact nomatch (Prod.mk.inj hrun).1
  | @refused p p' q v e before run ih =>
    rcases ih.write v with ⟨p'', hrun, hq⟩ | hrun
    · rw [run] at hrun
      exact nomatch (Prod.mk.inj hrun).1
    · rw [run] at hrun
      rw [(Prod.mk.inj hrun).2]
      exact ih
  | read before oldest fits run ih =>
    obtain ⟨p'', hrun, hq⟩ := ih.read oldest fits
    rw [run] at hrun
    rw [(Prod.mk.inj hrun).2]
    exact hq

/-- **A parcel is two typed queues.**  After any history a read that fits the oldest unread value of an area answers that
value, and a read of at least one byte of an area with no unread value fails and changes nothing. -/
theorem fifo {p : Parcel} {q : Queues} (hist : History p q) :
    (∀ h v rest op, q h = v :: rest → v.ReadBy op → ((perform op).on p).1 = .ok v.answer) ∧
      ∀ h op, q h = [] → Demands h op → (perform op).on p = (.error .underflow, p) := by
  have hq := hist.holds
  constructor
  · intro h v rest op oldest fits
    obtain ⟨p', hrun, -⟩ := hq.read oldest fits
    rw [hrun]
  · intro h op hnone hd
    refine hd.starves p (hq.sound h) ?_
    rw [hq.unread, hnone]
    rfl

/-- A token, a number and an object; the token is read before the number is written, and a second object has no room.
The object is read in between, and then there is no object any more. -/
theorem fifo_mixed :
    let p₁ := ((perform (.writeInterfaceToken "nx")).on .empty).2
    let p₂ := ((perform (.writeObject [7, 8, 9])).on p₁).2
    let p₃ := ((perform (.readInterfaceToken 2)).on p₂).2
    let p₄ := ((perform (.writeObject (Bytes.zeros 0x400))).on p₃).2
    let p := ((perform (.writeUInt64 5)).on p₄).2
    let p' := ((perform (.readObject 3)).on p).2
    (∃ q, History p q ∧ q .data = [.uint64 5] ∧ q .objects = [.object [7, 8, 9]]) ∧
      (perform (.writeObject (Bytes.zeros 0x400))).on p₃ = (.error .objectsFull, p₄) ∧
      ((perform (.readObject 3)).on p).1 = .ok (.bytes [7, 8, 9]) ∧
      ((perform .readUInt64).on p').1 = .ok (.uint64 5) ∧
      (perform (.readObject 1)).on p' = (.error .underflow, p') := by
  intro p₁ p₂ p₃ p₄ p p'
  have ascii : Text.IsAscii "nx" := Text.isAscii_of_bytes (List.all_eq_true.1 (by decide +kernel))
  have htoken : (perform (.writeInterfaceToken "nx")).on .empty = (.ok .done, p₁) := Attempt.on_eq_ok (by decide +kernel)
  have hobject : (perform (.writeObject [7, 8, 9])).on p₁ = (.ok .done, p₂) := Attempt.on_eq_ok (by decide +kernel)
  have hfull : (perform (.writeObject (Bytes.zeros 0x400))).on p₃ = (.error .objectsFull, p₄) :=
    Attempt.on_eq_error (by decide +kernel)
  have hnumber : (perform (.writeUInt64 5)).on p₄ = (.ok .done, p) := Attempt.on_eq_ok (by decide +kernel)
  have h₂ : History p₂ _ := .written (v := .object [7, 8, 9]) (.written (v := .token "nx" ascii) .start htoken) hobject
  have h₃ : History p₃ _ := .read h₂ (h := .data) rfl (.token ascii (Nat.le_refl 2)) (Prod.eta _).symm
  have hp : History p _ := .written (v := .uint64 5) (.refused (v := .object (Bytes.zeros 0x400)) h₃ hfull) hnumber
  have hp' : History p' _ := .read hp (h := .objects) rfl (.object [7, 8, 9]) (Prod.eta _).symm
  exact ⟨⟨_, hp, rfl, rfl⟩, hfull, (fifo hp).1 .objects _ _ _ rfl (.object [7, 8, 9]),
    (fifo hp').1 .data _ _ _ rfl (.uint64 5), (fifo hp').2 .objects _ rfl (.object Nat.one_pos)⟩

end Parcel
end HorizonIpc
