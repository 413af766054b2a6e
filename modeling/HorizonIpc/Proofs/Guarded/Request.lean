import HorizonIpc.Proofs.Command.Capacity
import HorizonIpc.Proofs.Command.Request
import HorizonIpc.Proofs.Guarded.Command
import HorizonIpc.Session.Call
/-!
# Proofs.Guarded.Request — laying a call out

A builder has room for eight items of a kind (`capped_collect`), so the sizes added up for its data words are small
numbers, and every table is written only after its section was found to end inside the message (`finalize_eq`).  The
payload is cut out of the message at the place laid out for it, and is exactly as long as the header and the arguments
(`layOut_eq`).
-/
namespace HorizonIpc
namespace Guarded

/-! ## the guarded definitions -/

def staticEntry : Region × Nat → Bytes := fun (r, i) => (StaticDescriptor.describe r.address r.length i).encode

def bufferEntry (x : Mapping) : Bytes := (BufferDescriptor.describe x.region.address x.region.length x.mode).encode

def recvEntry (r : Region) : Bytes := (RecvEntry.describe r.address r.length).encode

def sizeEntry (r : Region) : Bytes := Bytes.ofNatLE 2 r.length

/-- Writes the tables of a request into a started message; `sizes` is where the sizes of the receive statics stand in
the data words. -/
def tables (b : Builder) (l : Layout) (sizes : Nat) (m : Message) : Option Message := do
  let m ← putAll Bytes.ofUInt32 m l.copyHandles Layout.handleWidth b.copyHandles
  let m ← putAll Bytes.ofUInt32 m l.moveHandles Layout.handleWidth b.moveHandles
  let m ← putAll staticEntry m l.sendStatics StaticDescriptor.width b.sendStatics.zipIdx
  let m ← putAll bufferEntry m l.sendBuffers BufferDescriptor.width b.sendBuffers
  let m ← putAll bufferEntry m l.recvBuffers BufferDescriptor.width b.recvBuffers
  let m ← putAll recvEntry m l.recvList RecvEntry.width b.recvStatics
  putAll sizeEntry m (← sum l.dataWords sizes) 2 b.recvStatics

/-- Lays a request out, one size after the other. -/
def finalize (b : Builder) (type : UInt16) (payloadSize : Nat) (m : Message) :
    Option (Except BuildError Slot × Message) := do
  if payloadSize > Shape.maxDataWords * Layout.wordWidth then return (.error (.layout .tooManyDataWords), m)
  let padded ← sum PayloadHeader.alignment payloadSize
  let sizes := (← sum padded 1) / 2 * 2
  let rawSize ← sum sizes (← product 2 b.recvStatics.length)
  match ← start { b.shape type payloadSize with dataWords := unitsFor Layout.wordWidth rawSize } m with
  | (.error e, m) => return (.error (.layout e), m)
  | (.ok layout, m) =>
    let m ← tables b layout sizes m
    return (.ok ⟨← align layout.dataWords, payloadSize⟩, m)

/-- The message with `new` copied over the bytes of a payload from `start` up to `stop`. -/
def fillPayload (slot : Slot) (start stop : Nat) (new : Bytes) (m : Message) : Option Message := do
  let payload ← read m slot.start slot.size
  return m.write slot.start (← fill payload start stop new)

/-- Starts a request.  That the size of its payload is no machine word is no fault: the program looks whether it is. -/
def startRequest (b : Builder) (type : CommandType) (command : UInt32) (dataSize : Nat) (m : Message) :
    Option (Except BuildError Slot × Message) := do
  match sum PayloadHeader.width dataSize with
  | none => return (.error (.layout .tooManyDataWords), m)
  | some payloadSize =>
    match ← finalize b type.code payloadSize m with
    | (.error e, m) => return (.error e, m)
    | (.ok slot, m) =>
      if (← read m slot.start slot.size).length < PayloadHeader.width then return (.error .payloadTooSmall, m)
      return (.ok slot, ← fillPayload slot 0 PayloadHeader.width (PayloadHeader.request command 0).encode m)

/-- Lays a call out.  The arguments must be as long as the rest of the payload that they are copied over. -/
def layOut (c : Call) (m : Message) : Option (Except BuildError Unit × Message) := do
  match Builder.collect c.additions with
  | .error e => return (.error e, m)
  | .ok b =>
    match ← startRequest b c.type c.command c.arguments.length m with
    | (.error e, m) => return (.error e, m)
    | (.ok slot, m) => return (.ok (), ← fillPayload slot PayloadHeader.width slot.size c.arguments m)

/-! ## laying out -/

open Builder

variable {b : Builder} {m : Message}

theorem recvCount_shape (b : Builder) (type : UInt16) (payloadSize : Nat) :
    (b.shape type payloadSize).recvCount = b.recvStatics.length := by
  unfold shape Shape.recvCount
  cases b.recvStatics <;> rfl

/-- **The tables of a request are written without a fault** once its layout ends inside the message. -/
theorem tables_eq {type : UInt16} {payloadSize : Nat}
    (hfit : (Layout.ofShape (b.shape type payloadSize)).stop ≤ Message.size) (m : Message) :
    let l := Layout.ofShape (b.shape type payloadSize)
    tables b l (sizeTable payloadSize) m = some
      (((((((m.write l.copyHandles (encodeHandles b.copyHandles)).write l.moveHandles
        (encodeHandles b.moveHandles)).write l.sendStatics (encodeStatics b.sendStatics)).write l.sendBuffers
        (encodeBuffers b.sendBuffers)).write l.recvBuffers (encodeBuffers b.recvBuffers)).write l.recvList
        (encodeRecvList b.recvStatics)).write (l.dataWords + sizeTable payloadSize) (encodeSizes b.recvStatics)) := by
  intro l
  have hlimit : Message.size < wordLimit := by decide
  have hl : l.Consecutive _ (b.shape type payloadSize) := Layout.consecutive_ofShape _
  obtain ⟨hcopy, hmove, hstatics, hsend, hrecv, -, hwords, hlist⟩ := hl.ends_le hfit
  rw [recvCount_shape] at hlist
  have htable := b.sizeTable_le payloadSize
  have hend : l.dataWords + b.dataWords payloadSize * Layout.wordWidth ≤ Message.size := hwords
  have hsizes : sum l.dataWords (sizeTable payloadSize) = some (l.dataWords + sizeTable payloadSize) :=
    sum_eq (by omega)
  have hnumbered : l.sendStatics + b.sendStatics.zipIdx.length * StaticDescriptor.width ≤ Message.size := by
    rw [List.length_zipIdx]
    exact hstatics
  have hcopies (m : Message) : putAll Bytes.ofUInt32 m l.copyHandles Layout.handleWidth b.copyHandles = some _ :=
    putAll_eq Bytes.length_ofUInt32 hcopy
  have hmoves (m : Message) : putAll Bytes.ofUInt32 m l.moveHandles Layout.handleWidth b.moveHandles = some _ :=
    putAll_eq Bytes.length_ofUInt32 hmove
  have hpointers (m : Message) : putAll staticEntry m l.sendStatics StaticDescriptor.width b.sendStatics.zipIdx = some _ :=
    putAll_eq (fun _ => StaticDescriptor.length_encode _) hnumbered
  have hsends (m : Message) : putAll bufferEntry m l.sendBuffers BufferDescriptor.width b.sendBuffers = some _ :=
    putAll_eq (fun _ => BufferDescriptor.length_encode _) hsend
  have hrecvs (m : Message) : putAll bufferEntry m l.recvBuffers BufferDescriptor.width b.recvBuffers = some _ :=
    putAll_eq (fun _ => BufferDescriptor.length_encode _) hrecv
  have hplaces (m : Message) : putAll recvEntry m l.recvList RecvEntry.width b.recvStatics = some _ :=
    putAll_eq (fun _ => RecvEntry.length_encode _) hlist
  have hlengths (m : Message) : putAll sizeEntry m (l.dataWords + sizeTable payloadSize) 2 b.recvStatics = some _ :=
    putAll_eq (fun _ => Bytes.length_ofNatLE _ _) (by omega)
  unfold tables
  simp only [hcopies, hmoves, hpointers, hsends, hrecvs, hplaces, hsizes, hlengths, Option.bind_eq_bind,
    Option.bind_some]
  rfl

/-- **Laying a request out meets no fault**, whatever it carries. -/
theorem finalize_eq (hb : b.recvStatics.length ≤ maxBuffers) (type : UInt16) (payloadSize : Nat) (m : Message) :
    finalize b type payloadSize m = some ((b.finalize type payloadSize).on m) := by
  have hlimit : 2 ^ 32 < wordLimit := by decide
  unfold finalize Builder.finalize
  by_cases hp : payloadSize > Shape.maxDataWords * Layout.wordWidth
  · simp only [hp, if_true, Attempt.on_bind, Attempt.on_throw]
    rfl
  -- behind the first check no sum can grow too large
  have hsmall : payloadSize ≤ 4092 := Nat.le_of_not_lt hp
  have hfew : b.recvStatics.length ≤ 8 := hb
  have hsizes : (PayloadHeader.alignment + payloadSize + 1) / 2 * 2 = sizeTable payloadSize := rfl
  have hpadded : sum PayloadHeader.alignment payloadSize = some (PayloadHeader.alignment + payloadSize) :=
    sum_eq (show 16 + _ < _ by omega)
  have hround : sum (PayloadHeader.alignment + payloadSize) 1 = some (PayloadHeader.alignment + payloadSize + 1) :=
    sum_eq (show 16 + _ + 1 < _ by omega)
  have htwice : product 2 b.recvStatics.length = some (2 * b.recvStatics.length) := product_eq (by omega)
  have hraw : sum (sizeTable payloadSize) (2 * b.recvStatics.length) =
      some (sizeTable payloadSize + 2 * b.recvStatics.length) :=
    sum_eq (show (16 + payloadSize + 1) / 2 * 2 + _ < _ by omega)
  have hshape : { b.shape type payloadSize with
      dataWords := unitsFor Layout.wordWidth (sizeTable payloadSize + 2 * b.recvStatics.length) } =
    b.shape type payloadSize := rfl
  simp only [hp, if_false, hpadded, hround, hsizes, htwice, hraw, hshape, start_eq, Option.bind_eq_bind,
    Option.bind_some]
  rcases hs : (Frame.start (b.shape type payloadSize)).on m with ⟨e | l, m'⟩
  · simp only [Attempt.on_bind, Attempt.on_mapError, hs, Attempt.mapError_error]
    rfl
  · obtain ⟨-, hfit, rfl, -⟩ := Frame.start_ok hs
    have hwords := (Layout.consecutive_ofShape (b.shape type payloadSize)).ends_le hfit
    have halign : align (Layout.ofShape (b.shape type payloadSize)).dataWords = some (alignUp _ _) :=
      align_eq (by
        have : Message.size < 2 ^ 32 := by decide
        omega)
    simp only [Attempt.on_bind, Attempt.on_mapError, hs, Attempt.mapError_ok, Attempt.on_modify, Attempt.on_pure,
      tables_eq hfit, halign, Option.bind_some]
    rfl

section payload

variable {slot : Slot} {start stop : Nat} {new : Bytes}

theorem length_payload (hslot : slot.start + slot.size ≤ Message.size) :
    (m.window slot.start slot.size).length = slot.size :=
  Bytes.length_window (by rw [m.size_eq]; exact hslot)

/-- **A part of the payload is written without a fault**, if what is written is as long. -/
theorem fillPayload_eq (hslot : slot.start + slot.size ≤ Message.size) (hstop : stop ≤ slot.size)
    (hn : start + new.length = stop) : fillPayload slot start stop new m = some (m.write (slot.start + start) new) := by
  have hfill : fill (m.window slot.start slot.size) start stop new = some _ :=
    fill_eq (by rw [length_payload hslot]; exact hstop) hn
  have hsame : m.write slot.start ((m.window slot.start slot.size).overlay start new) = m.write (slot.start + start) new :=
    Message.ext_bytes (Bytes.overlay_overlay_window (by rw [m.size_eq]; exact hslot) (by omega))
  unfold fillPayload
  simp only [read_eq hslot, hfill, hsame, Option.bind_eq_bind, Option.bind_some]
  rfl

end payload

variable {type : CommandType} {command : UInt32} {dataSize : Nat}

/-- **Starting a request meets no fault**, however many arguments it is to have. -/
theorem startRequest_eq (hb : b.recvStatics.length ≤ maxBuffers) (type : CommandType) (command : UInt32) (dataSize : Nat)
    (m : Message) : startRequest b type command dataSize m = some ((Request.start b type command dataSize).on m) := by
  unfold startRequest
  by_cases hn : PayloadHeader.width + dataSize < wordLimit
  · simp only [sum_eq hn, finalize_eq hb, Option.bind_eq_bind, Option.bind_some]
    rcases hf : (b.finalize type.code (PayloadHeader.width + dataSize)).on m with ⟨e | slot, m'⟩
    · unfold Request.start
      rw [Attempt.on_bind, hf]
      rfl
    · obtain ⟨hw, hslot⟩ := Request.slot_room hf
      have hlong : ¬ (m'.window slot.start slot.size).length < PayloadHeader.width := by
        rw [length_payload hslot]
        exact Nat.not_lt.2 hw
      have hfill : fillPayload slot 0 PayloadHeader.width (PayloadHeader.request command 0).encode m' = some _ :=
        fillPayload_eq hslot hw rfl
      rw [Request.start_on hf]
      simp only [read_eq hslot, hlong, hfill, Option.bind_some, if_false]
      rfl
  -- a size that is no machine word is refused, as any size that large
  · have hover : sum PayloadHeader.width dataSize = none := if_neg hn
    have hlarge : PayloadHeader.width + dataSize > Shape.maxDataWords * Layout.wordWidth :=
      Nat.lt_of_lt_of_le (by decide : _ < wordLimit) (Nat.le_of_not_lt hn)
    have hf : (b.finalize type.code (PayloadHeader.width + dataSize)).on m = (.error (.layout .tooManyDataWords), m) := by
      unfold Builder.finalize
      simp only [hlarge, if_true, Attempt.on_bind, Attempt.on_throw]
    unfold Request.start
    rw [hover, Attempt.on_bind, hf]
    rfl

theorem slot_of_start {slot : Slot} {m' : Message}
    (h : (Request.start b type command dataSize).on m = (.ok slot, m')) :
    slot.size = PayloadHeader.width + dataSize ∧ slot.start + slot.size ≤ Message.size := by
  rcases hf : (b.finalize type.code (PayloadHeader.width + dataSize)).on m with ⟨e | slot₁, m₁⟩
  · simp [Request.start, hf] at h
  · rw [Request.start_on hf] at h
    cases h
    obtain ⟨-, hslot, -⟩ := Builder.finalize_ok hf
    exact ⟨congrArg Slot.size hslot, (Request.slot_room hf).2⟩

/-- **Laying a call out meets no fault**, whatever the call carries. -/
theorem layOut_eq (c : Call) (m : Message) : layOut c m = some (c.layOut.on m) := by
  unfold layOut Call.layOut
  cases hb : collect c.additions with
  | error e => rfl
  | ok b =>
    simp only [startRequest_eq (capped_collect hb .recvStatics), Option.bind_eq_bind, Option.bind_some, Attempt.on_bind,
      Attempt.on_ofExcept]
    rcases hs : (Request.start b c.type c.command c.arguments.length).on m with ⟨e | slot, m'⟩
    · rfl
    · obtain ⟨hsize, hslot⟩ := slot_of_start hs
      have hfill : fillPayload slot PayloadHeader.width slot.size c.arguments m' = some _ :=
        fillPayload_eq hslot (Nat.le_refl _) hsize.symm
      simp only [hfill, Option.bind_some]
      rfl

end Guarded
end HorizonIpc
