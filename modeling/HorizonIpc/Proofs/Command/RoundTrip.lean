import HorizonIpc.Proofs.Command.Additions
import HorizonIpc.Proofs.Command.Request
/-!
# Proofs.Command.RoundTrip — a server finds what the client added

`View.Shows` says what is left of a builder's items on the server's side: descriptors keep every item and its place, but
only the low bits of addresses and of mapped lengths.  A request that could be started shows exactly the items of the
additions that succeeded (`ofMessage_service`).
-/
namespace HorizonIpc

/-- **What a view shows of a builder**: every item in its place, cut to the bits that its descriptor keeps. -/
structure View.Shows (v : View) (b : Builder) : Prop where
  copyHandles : v.copyHandles = b.copyHandles
  moveHandles : v.moveHandles = b.moveHandles
  sendStatics : v.sendStatics.map (fun d => (d.index.toNat, d.size.toNat, d.address.toNat)) =
    b.sendStatics.zipIdx.map fun (r, i) => (i, r.length, r.address.toNat % 2 ^ 42)
  sendBuffers : v.sendBuffers.map (fun d => (d.mode, d.size, d.address.toNat)) =
    b.sendBuffers.map fun m => (m.mode, m.region.length % 2 ^ 36, m.region.address.toNat % 2 ^ 58)
  recvBuffers : v.recvBuffers.map (fun d => (d.mode, d.size, d.address.toNat)) =
    b.recvBuffers.map fun m => (m.mode, m.region.length % 2 ^ 36, m.region.address.toNat % 2 ^ 58)
  exchBuffers : v.shape.exchBuffers = 0
  recvList : v.recvList.map (fun e => (e.size.toNat, e.address.toNat)) =
    b.recvStatics.map fun r => (r.length, r.address.toNat % 2 ^ 48)
  pid : v.pid = if b.sendPid then some 0 else none

namespace Builder

variable {b : Builder} {messageType : UInt16} {payloadSize : Nat} {m : Message}

/-- The statics sent are numbered in their order, and the number, the length and 42 address bits are kept. -/
theorem staticDescriptors_fields {regions : List Region} (hf : ∀ r ∈ regions, r.length ≤ maxStaticSize)
    (hn : regions.length ≤ Shape.maxCount) :
    (staticDescriptors regions).map (fun d => (d.index.toNat, d.size.toNat, d.address.toNat)) =
      regions.zipIdx.map fun (r, i) => (i, r.length, r.address.toNat % 2 ^ 42) := by
  rw [staticDescriptors_low hn]
  refine List.map_congr_left fun (r, i) hr => ?_
  have hlen : r.length ≤ 0xFFFF := hf r (List.fst_mem_of_mem_zipIdx hr)
  simp only [Nat.mod_eq_of_lt (show r.length < 2 ^ 16 by omega)]

theorem bufferDescriptors_fields (mappings : List Mapping) :
    (mappings.map bufferDescriptor).map (fun d => (d.mode, d.size, d.address.toNat)) =
      mappings.map fun m => (m.mode, m.region.length % 2 ^ 36, m.region.address.toNat % 2 ^ 58) := by
  rw [List.map_map]
  refine List.map_congr_left fun m _ => ?_
  show (m.mode, (bufferDescriptor m).size, (bufferDescriptor m).address.toNat) = _
  unfold bufferDescriptor
  rw [BufferDescriptor.size_describe, BufferDescriptor.toNat_address_describe]

theorem recvEntries_fields (hf : b.StaticsFit) :
    (b.recvStatics.map fun r => RecvEntry.describe r.address r.length).map
        (fun e => (e.size.toNat, e.address.toNat)) =
      b.recvStatics.map fun r => (r.length, r.address.toNat % 2 ^ 48) := by
  rw [List.map_map]
  refine List.map_congr_left fun r hr => ?_
  have hlen : r.length ≤ 0xFFFF := hf.2 r hr
  show ((RecvEntry.describe r.address r.length).size.toNat, (RecvEntry.describe r.address r.length).address.toNat) = _
  rw [RecvEntry.toNat_size_describe, RecvEntry.toNat_address_describe,
    Nat.mod_eq_of_lt (show r.length < 2 ^ 16 by omega)]

/-- **A message with the sections of a builder shows its items**, whatever its data words hold. -/
theorem shows_view {data : Bytes} {hd : data.length = (b.contents messageType payloadSize).data.length}
    (hf : b.StaticsFit) (hv : (b.contents messageType payloadSize).shape.validate = .ok ())
    (h : ((b.contents messageType payloadSize).withData data hd).Shown m) :
    (((b.contents messageType payloadSize).withData data hd).view m).Shows b where
  copyHandles := Contents.copyHandles_view h
  moveHandles := Contents.moveHandles_view h
  sendStatics := by
    have hcount := ((Shape.validate_eq_ok_iff _).1 hv).1.1
    rw [shape_contents] at hcount
    rw [Contents.sendStatics_view h]
    exact staticDescriptors_fields hf.1 hcount
  sendBuffers := by
    rw [Contents.sendBuffers_view h]
    exact bufferDescriptors_fields b.sendBuffers
  recvBuffers := by
    rw [Contents.recvBuffers_view h]
    exact bufferDescriptors_fields b.recvBuffers
  exchBuffers := rfl
  recvList := by
    rw [Contents.recvList_view h]
    exact recvEntries_fields hf
  pid := Contents.pid_view h

end Builder

namespace Request

open Builder

/-- **A server reads a request as the client built it.**  Whatever is added to an empty builder, some of it in vain: if
the request can be started and its arguments are copied in, then the message is decoded to a request of the command, with
arguments that begin with those copied in, and it shows exactly the items of the additions that succeeded. -/
theorem ofMessage_service {additions : List Addition} {command : UInt32} {arguments : Bytes} {m m' : Message}
    {slot : Slot}
    (h : (service (addAll additions .empty).2 command arguments.length).on m = (.ok slot, m')) :
    ∃ r, ServerRequest.ofMessage ((putArguments slot arguments).on m').2 = .ok r ∧
      r.commandType = some .request ∧ r.command = some command ∧ arguments <+: r.arguments ∧
      r.view.Shows (itemsOf (accepted additions (addAll additions .empty).1)) := by
  obtain ⟨hall, hf⟩ := addAll_spec additions .empty
  rw [hall, empty_plus] at h
  obtain ⟨hv, -⟩ := start_ok h
  obtain ⟨data, hd, tail, hshown, hread⟩ := ofMessage_putArguments (by decide) h
  exact ⟨_, hread, rfl, rfl, List.prefix_append _ _, shows_view hf hv hshown⟩

/-- One of the additions is refused, and the others arrive. -/
theorem ofMessage_service_mixed :
    let additions : List Addition := [.pid, .sendStatic ⟨0x1000, 0x20000⟩, .inAuto .static ⟨⟨0x7000000000, 3⟩, .normal⟩,
      .outAuto .mapped ⟨⟨0x2000, 0x400⟩, .nonDevice⟩, .recvStatic ⟨0x3000, 16⟩, .copyHandle 7, .moveHandle 8]
    let run := (service (addAll additions .empty).2 5 3).on Message.zero
    run = (.ok ⟨64, 19⟩, run.2) ∧ ∃ r, ServerRequest.ofMessage ((putArguments ⟨64, 19⟩ [1, 2, 3]).on run.2).2 = .ok r ∧
      r.commandType = some .request ∧ r.command = some 5 ∧ [1, 2, 3] <+: r.arguments ∧
      r.view.Shows (itemsOf (additions.eraseIdx 1)) := by
  intro additions run
  have hrun : run = (.ok ⟨64, 19⟩, run.2) := Attempt.on_eq_ok (by decide +kernel)
  have haccepted : accepted additions (addAll additions .empty).1 = additions.eraseIdx 1 := rfl
  have h := ofMessage_service (show (service _ 5 ([1, 2, 3] : Bytes).length).on _ = _ from hrun)
  rw [haccepted] at h
  exact ⟨hrun, h⟩

end Request
end HorizonIpc
