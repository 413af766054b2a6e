import HorizonIpc.Command.Server
import HorizonIpc.Command.Builder
import HorizonIpc.Proofs.Command.Payload
/-!
# Proofs.Command.Layout — what a laid-out request holds

`Builder.contents` says what the sections of a request are.  Laying the request out gives exactly these sections and
zeros behind them (`finalize_ok`), with data words of zeros up to the sizes of the receive statics.  With a command
header and arguments written into its payload, the message is decoded to the same sections, command and arguments
(`ofMessage_putArguments`).
-/
namespace HorizonIpc

open Bytes (zeros)

namespace Builder

/-- The descriptors of statics, numbered from zero. -/
def staticDescriptors (regions : List Region) : List StaticDescriptor :=
  regions.zipIdx.map fun (r, i) => .describe r.address r.length i

def bufferDescriptor (m : Mapping) : BufferDescriptor := .describe m.region.address m.region.length m.mode

def recvMode (b : Builder) : Option RecvMode :=
  if b.recvStatics.isEmpty then none else some (.explicit b.recvStatics.length)

/-- The data words of the request: zeros up to the sizes of the receive statics. -/
def plainData (b : Builder) (payloadSize : Nat) : Bytes :=
  zeros (sizeTable payloadSize) ++ encodeSizes b.recvStatics ++
    zeros (b.dataWords payloadSize * Layout.wordWidth - (sizeTable payloadSize + 2 * b.recvStatics.length))

theorem length_encodeSizes (regions : List Region) : (encodeSizes regions).length = 2 * regions.length := by
  unfold encodeSizes
  rw [Bytes.length_flatMap fun _ => Bytes.length_ofNatLE 2 _, Nat.mul_comm]

theorem sizeTable_le (b : Builder) (payloadSize : Nat) :
    sizeTable payloadSize + 2 * b.recvStatics.length ≤ b.dataWords payloadSize * Layout.wordWidth :=
  le_alignUp (by decide) _

theorem length_plainData (b : Builder) (payloadSize : Nat) :
    (b.plainData payloadSize).length = b.dataWords payloadSize * Layout.wordWidth := by
  have h := b.sizeTable_le payloadSize
  unfold plainData
  rw [List.length_append, List.length_append, Bytes.length_zeros, Bytes.length_zeros, length_encodeSizes]
  omega

/-- The data words are those that hold nothing but the sizes of the receive statics. -/
theorem overlay_encodeSizes (b : Builder) (payloadSize : Nat) :
    (zeros (b.plainData payloadSize).length).overlay (sizeTable payloadSize) (encodeSizes b.recvStatics) =
      b.plainData payloadSize := by
  have hle := b.sizeTable_le payloadSize
  have hlen := b.length_plainData payloadSize
  rw [Bytes.overlay_zeros (by rw [length_encodeSizes]; omega), length_encodeSizes, hlen]
  rfl

/-- The sections of the request. -/
def contents (b : Builder) (messageType : UInt16) (payloadSize : Nat) : Contents where
  messageType := messageType
  pid := if b.sendPid then some 0 else none
  copyHandles := b.copyHandles
  moveHandles := b.moveHandles
  sendStatics := staticDescriptors b.sendStatics
  sendBuffers := b.sendBuffers.map bufferDescriptor
  recvBuffers := b.recvBuffers.map bufferDescriptor
  data := b.plainData payloadSize
  recvMode := b.recvMode
  recvList := b.recvStatics.map fun r => .describe r.address r.length
  data_mod := by rw [length_plainData]; exact Nat.mul_mod_left _ _
  length_recvList := by
    rw [List.length_map, recvMode]
    cases b.recvStatics <;> rfl

theorem shape_contents (b : Builder) (messageType : UInt16) (payloadSize : Nat) :
    (b.contents messageType payloadSize).shape = b.shape messageType payloadSize := by
  unfold contents Contents.shape shape
  simp only [length_plainData, List.length_map, staticDescriptors, List.length_zipIdx]
  rw [Nat.mul_div_cancel _ (by decide)]
  cases b.sendPid <;> rfl

theorem flatMap_staticDescriptors (regions : List Region) :
    (staticDescriptors regions).flatMap StaticDescriptor.encode = encodeStatics regions := by
  unfold staticDescriptors encodeStatics
  rw [List.flatMap_map]

/-- **Statics are numbered in their order**, and 16 bits of their length and 42 of their address are kept. -/
theorem staticDescriptors_low {regions : List Region} (hn : regions.length ≤ 15) :
    (staticDescriptors regions).map (fun d => (d.index.toNat, d.size.toNat, d.address.toNat)) =
      regions.zipIdx.map fun (r, i) => (i, r.length % 2 ^ 16, r.address.toNat % 2 ^ 42) := by
  unfold staticDescriptors
  rw [List.map_map]
  refine List.map_congr_left fun (r, i) hr => ?_
  have hi : i < regions.length := by
    have := List.snd_lt_of_mem_zipIdx hr
    omega
  simp only [Function.comp_apply, StaticDescriptor.toNat_index_describe, StaticDescriptor.toNat_size_describe,
    StaticDescriptor.toNat_address_describe]
  rw [Nat.mod_eq_of_lt (show i < 2 ^ 6 by omega)]

theorem length_encodeStatics (regions : List Region) : (encodeStatics regions).length = regions.length * 8 := by
  rw [← flatMap_staticDescriptors, Bytes.length_flatMap StaticDescriptor.length_encode, staticDescriptors,
    List.length_map, List.length_zipIdx]
  rfl

/-- The message that `finalize` leaves: the sections written over a blank message. -/
theorem finalize_writes {b : Builder} {messageType : UInt16} {payloadSize : Nat} {m m' : Message} {slot : Slot}
    (h : (b.finalize messageType payloadSize).on m = (.ok slot, m')) :
    let s := b.shape messageType payloadSize
    let l := Layout.ofShape s
    s.validate = .ok () ∧ l.stop ≤ Message.size ∧
      slot = ⟨alignUp PayloadHeader.alignment l.dataWords, payloadSize⟩ ∧
      m' = (((((((Frame.blank s).write l.copyHandles (encodeHandles b.copyHandles)).write l.moveHandles
        (encodeHandles b.moveHandles)).write l.sendStatics (encodeStatics b.sendStatics)).write l.sendBuffers
        (encodeBuffers b.sendBuffers)).write l.recvBuffers (encodeBuffers b.recvBuffers)).write l.recvList
        (encodeRecvList b.recvStatics)).write (l.dataWords + sizeTable payloadSize) (encodeSizes b.recvStatics) := by
  intro s l
  unfold finalize at h
  by_cases hp : payloadSize > Shape.maxDataWords * Layout.wordWidth
  · simp [hp] at h
  · obtain ⟨r, m₁, hs⟩ : ∃ r m₁, (Frame.start s).on m = (r, m₁) := ⟨_, _, rfl⟩
    cases r with
    | error e => simp [hp, s, hs] at h
    | ok l' =>
      obtain ⟨hv, hf, rfl, rfl⟩ := Frame.start_ok hs
      simp only [hp, if_false, Attempt.on_bind, Attempt.on_pure, Attempt.on_mapError, hs, Attempt.mapError_ok,
        Attempt.on_modify, Prod.mk.injEq, Except.ok.injEq, s] at h
      exact ⟨hv, hf, h.1.symm, h.2.symm⟩

/-- Whether the request can be laid out. -/
def Fits (b : Builder) (messageType : UInt16) (payloadSize : Nat) : Prop :=
  payloadSize ≤ Shape.maxDataWords * Layout.wordWidth ∧ (b.shape messageType payloadSize).validate = .ok () ∧
    (Layout.ofShape (b.shape messageType payloadSize)).stop ≤ Message.size

/-- A builder with at most one item of each kind of buffer, no handles and no process id. -/
structure Small (b : Builder) : Prop where
  sendStatics : b.sendStatics.length ≤ 1
  sendBuffers : b.sendBuffers.length ≤ 1
  recvBuffers : b.recvBuffers.length ≤ 1
  recvStatics : b.recvStatics.length ≤ 1
  copyHandles : b.copyHandles = []
  moveHandles : b.moveHandles = []
  sendPid : b.sendPid = false

/-- **A small request with a short payload fits.** -/
theorem Small.fits {b : Builder} (hb : b.Small) (code : UInt16) {n : Nat} (h : n ≤ 64) : b.Fits code n := by
  obtain ⟨hs, ha, hr, hl, hc, hm, hp⟩ := hb
  have hwords : b.dataWords n * 4 ≤ n + 22 := by
    unfold dataWords sizeTable alignUp unitsFor PayloadHeader.alignment Layout.wordWidth
    omega
  have hmode : Shape.recvModeFits (b.shape code n).recvMode = true ∧ (b.shape code n).recvCount ≤ 1 := by
    unfold shape Shape.recvCount
    match b.recvStatics, hl with
    | [], _ => exact ⟨rfl, Nat.zero_le _⟩
    | [_], _ => exact ⟨rfl, Nat.le_refl _⟩
  have hspecial : (b.shape code n).needsSpecial = false := by
    unfold Shape.needsSpecial shape
    rw [hp, hc, hm]
    rfl
  refine ⟨Nat.le_trans h (by decide), ?_, ?_⟩
  · rw [Shape.validate_eq_ok_iff]
    refine ⟨?_, hmode.1, ?_⟩
    · unfold shape Shape.maxCount
      rw [hc, hm]
      simp only [List.length_nil]
      omega
    · show b.dataWords n ≤ 0x3FF
      omega
  · have hcount := hmode.2
    show 8 + (if (b.shape code n).needsSpecial then 4 else 0) + (if b.sendPid then 8 else 0) + b.copyHandles.length * 4 +
      b.moveHandles.length * 4 + b.sendStatics.length * 8 + b.sendBuffers.length * 12 + b.recvBuffers.length * 12 +
      0 * 12 + b.dataWords n * 4 + (b.shape code n).recvCount * 8 ≤ 256
    rw [hspecial, hp, hc, hm]
    simp only [List.length_nil, Bool.false_eq_true, if_false]
    omega

/-- **A request that fits is laid out**, whatever the message held before. -/
theorem finalize_of_fits {b : Builder} {messageType : UInt16} {payloadSize : Nat} (h : b.Fits messageType payloadSize)
    (m : Message) : ∃ slot m', (b.finalize messageType payloadSize).on m = (.ok slot, m') := by
  obtain ⟨hp, hv, hf⟩ := h
  have hroom : ¬ payloadSize > Shape.maxDataWords * Layout.wordWidth := by omega
  unfold finalize
  simp [hroom, Frame.start_of_fits hv hf, Except.map]

/-- **What laying a request out does**: where it succeeds, the message holds exactly the sections of the request. -/
theorem finalize_ok {b : Builder} {messageType : UInt16} {payloadSize : Nat} {m m' : Message} {slot : Slot}
    (h : (b.finalize messageType payloadSize).on m = (.ok slot, m')) :
    let c := b.contents messageType payloadSize
    c.shape.validate = .ok () ∧
      slot = ⟨alignUp PayloadHeader.alignment (Layout.ofShape c.shape).dataWords, payloadSize⟩ ∧
      m'.Holds c.bytes := by
  intro c
  have hshape : c.shape = b.shape messageType payloadSize := b.shape_contents messageType payloadSize
  obtain ⟨hv, hf, hslot, hm⟩ := finalize_writes h
  rw [← hshape] at hv hf hslot hm
  have hfit : c.bytes.length ≤ Message.size := by rw [Contents.length_bytes]; exact hf
  have hpid : c.pid = none ∨ c.pid = some 0 := by
    show (if b.sendPid then some 0 else none) = none ∨ (if b.sendPid then some 0 else none) = some 0
    cases b.sendPid <;> simp
  refine ⟨hv, hslot, ?_⟩
  have fits : ∀ {front : Bytes}, front <+: c.bytes → front.length ≤ Message.size :=
    fun hpre => Nat.le_trans hpre.length_le hfit
  have hcopies : encodeHandles b.copyHandles = c.copyHandles.flatMap Bytes.ofUInt32 := rfl
  have hmoves : encodeHandles b.moveHandles = c.moveHandles.flatMap Bytes.ofUInt32 := rfl
  have hstatics : encodeStatics b.sendStatics = c.sendStatics.flatMap StaticDescriptor.encode :=
    (flatMap_staticDescriptors b.sendStatics).symm
  have hsends : encodeBuffers b.sendBuffers = c.sendBuffers.flatMap BufferDescriptor.encode :=
    (List.flatMap_map ..).symm
  have hrecvs : encodeBuffers b.recvBuffers = c.recvBuffers.flatMap BufferDescriptor.encode :=
    (List.flatMap_map ..).symm
  have hlist : encodeRecvList b.recvStatics = c.recvList.flatMap RecvEntry.encode := (List.flatMap_map ..).symm
  have h3 := c.holds_upToSendBuffers hpid hfit
  have h4 := h3.write c.length_upToSendBuffers.symm (fits c.upToRecvBuffers_prefix)
  have h5 := h4.write c.length_upToRecvBuffers.symm (fits c.upToExchBuffers_prefix)
  have hexch : c.upToData = c.upToExchBuffers := List.append_nil _
  rw [← Contents.upToRecvBuffers, ← Contents.upToExchBuffers, ← hexch] at h5
  -- the data words are still zeros when the receive list is written behind them
  have h6 := c.holds_recvList h5 hfit
  have hsizes : sizeTable payloadSize + (encodeSizes b.recvStatics).length ≤ (zeros c.data.length).length := by
    have hle := b.sizeTable_le payloadSize
    have hlen : c.data.length = b.dataWords payloadSize * Layout.wordWidth := b.length_plainData payloadSize
    rw [length_encodeSizes, Bytes.length_zeros, hlen]
    exact hle
  have hplain : (zeros c.data.length).overlay (sizeTable payloadSize) (encodeSizes b.recvStatics) = c.data :=
    b.overlay_encodeSizes payloadSize
  have hsame : (c.upToData ++ (zeros c.data.length ++ c.recvList.flatMap RecvEntry.encode)).length = c.bytes.length := by
    rw [Contents.bytes, Contents.upToRecvList]
    simp only [List.length_append, Bytes.length_zeros]
    omega
  unfold Message.Holds at h6 ⊢
  rw [hm, hcopies, hmoves, hstatics, hsends, hrecvs, hlist, Message.bytes_write, ← hsame]
  rw [← List.append_assoc, List.append_assoc] at h6
  rw [Bytes.overlay_inside h6 (by rw [Contents.length_upToData]) hsizes, hplain, Contents.bytes,
    Contents.upToRecvList]
  simp only [List.append_assoc]

end Builder
end HorizonIpc
