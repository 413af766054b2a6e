import HorizonIpc.Loopback.Script
import HorizonIpc.Proofs.Command.RoundTrip
/-!
# Proofs.Binder.Carriage — where a server finds the client's buffers

A request and the place for its reply travel as statics or as mapped buffers.  Whichever it is, a server that looks at
the non-empty descriptor finds the request (`input?_of_shows`) and puts its reply where the client looks for it
(`output?_of_shows`).  Descriptors keep only the low bits of addresses; they tell the two buffers apart if 48 bits do.
-/
namespace HorizonIpc

namespace Builder

/-- How a request carries its two buffers: as the first statics, or as the first mapped buffers with no static that names
memory in front of them. -/
def Carries (b : Builder) (request reply : Region) : Placement → Prop
  | .static => b.sendStatics.head? = some request ∧ b.recvStatics.head? = some reply
  | .mapped => (∀ r ∈ b.sendStatics.head?, r.length = 0) ∧ (∀ r ∈ b.recvStatics.head?, r.length = 0) ∧
      (∃ m, b.sendBuffers.head? = some m ∧ m.region = request) ∧ ∃ m, b.recvBuffers.head? = some m ∧ m.region = reply

end Builder

namespace View

variable {v : View} {b : Builder}

/-- Whether the place for the reply is the first entry of the receive list. -/
def usesRecvList (v : View) : Bool :=
  match v.recvList.head? with
  | some e => e.size != 0
  | none => false

theorem head?_of_map_eq {α β γ : Type} {f : α → γ} {g : β → γ} : ∀ {l : List α} {l' : List β} {y : β},
    l.map f = l'.map g → l'.head? = some y → ∃ x, l.head? = some x ∧ f x = g y
  | [], _ :: _, _, h, _ => nomatch h
  | x :: _, _ :: _, _, h, rfl => ⟨x, rfl, (List.cons.inj h).1⟩

theorem Shows.sendStatics_parts (h : v.Shows b) :
    v.sendStatics.map (fun d => (d.size.toNat, d.address.toNat)) =
      b.sendStatics.map fun r => (r.length, r.address.toNat % 2 ^ 42) := by
  have hfields := congrArg (List.map Prod.snd) h.sendStatics
  rw [List.map_map, List.map_map] at hfields
  refine hfields.trans ?_
  conv => rhs; rw [← List.zipIdx_map_fst 0 b.sendStatics, List.map_map]
  rfl

theorem buffer_head {ds : List BufferDescriptor} {ms : List Mapping} {m : Mapping}
    (h : ds.map (fun d => (d.mode, d.size, d.address.toNat)) =
      ms.map fun m => (m.mode, m.region.length % 2 ^ 36, m.region.address.toNat % 2 ^ 58))
    (hm : ms.head? = some m) (hlen : m.region.length < 2 ^ 36) :
    ∃ d, ds.head? = some d ∧ d.size = m.region.length ∧ d.address.toNat = m.region.address.toNat % 2 ^ 58 := by
  obtain ⟨d, hd, hfields⟩ := head?_of_map_eq h hm
  obtain ⟨-, hrest⟩ := Prod.mk.inj hfields
  obtain ⟨hsize, haddress⟩ := Prod.mk.inj hrest
  exact ⟨d, hd, hsize.trans (Nat.mod_eq_of_lt hlen), haddress⟩

theorem Shows.sendStatic_empty (h : v.Shows b) (hb : ∀ r ∈ b.sendStatics.head?, r.length = 0) :
    ∀ d ∈ v.sendStatics.head?, d.size = 0 := by
  intro d hd
  obtain ⟨r, hr, hfields⟩ := head?_of_map_eq h.sendStatics_parts.symm hd
  have hsize := (Prod.mk.inj hfields).1
  exact BitVec.eq_of_toNat_eq (hsize.symm.trans (hb r hr))

theorem Shows.recvEntry_empty (h : v.Shows b) (hb : ∀ r ∈ b.recvStatics.head?, r.length = 0) :
    ∀ e ∈ v.recvList.head?, e.size = 0 := by
  intro e he
  obtain ⟨r, hr, hfields⟩ := head?_of_map_eq h.recvList.symm he
  have hsize := (Prod.mk.inj hfields).1
  exact BitVec.eq_of_toNat_eq (hsize.symm.trans (hb r hr))

end View

namespace Script

variable {v : View} {b : Builder} {request reply : Buffer}

/-- Two addresses agree in their low bits exactly if the bits that are kept are the same. -/
theorem setWidth_beq_iff {bits : Nat} {x y : UInt64} :
    (x.toBitVec.setWidth bits == y.toBitVec.setWidth bits) = true ↔ x.toNat % 2 ^ bits = y.toNat % 2 ^ bits := by
  rw [beq_iff_eq, ← BitVec.toNat_inj, BitVec.toNat_setWidth, BitVec.toNat_setWidth]
  rfl

theorem lent?_first {bits : Nat} {address : UInt64} (h : request.address.toNat % 2 ^ bits = address.toNat % 2 ^ bits)
    (rest : List Buffer) : lent? bits address (request :: rest) = some request := by
  have hpos := setWidth_beq_iff.2 h
  unfold lent? List.find?
  rw [hpos]

/-- Addresses that differ in 48 bits differ in any more of them, so the second buffer is found as well. -/
theorem lent?_second {bits : Nat} {address : UInt64} (hbits : 48 ≤ bits)
    (hne : request.address.toNat % 2 ^ 48 ≠ reply.address.toNat % 2 ^ 48)
    (ha : address.toNat = reply.address.toNat % 2 ^ bits) : lent? bits address [request, reply] = some reply := by
  have hdvd : 2 ^ 48 ∣ 2 ^ bits := Nat.pow_dvd_pow 2 hbits
  have hother : request.address.toNat % 2 ^ bits ≠ address.toNat % 2 ^ bits := by
    intro heq
    rw [ha, Nat.mod_mod] at heq
    apply hne
    rw [← Nat.mod_mod_of_dvd _ hdvd, heq, Nat.mod_mod_of_dvd _ hdvd]
  have hneg := Bool.eq_false_iff.2 fun heq => hother (setWidth_beq_iff.1 heq)
  have hrest := lent?_first (show reply.address.toNat % 2 ^ bits = address.toNat % 2 ^ bits by rw [ha, Nat.mod_mod]) []
  unfold lent? List.find?
  rw [hneg]
  exact hrest

theorem named?_first {bits size : Nat} {address : UInt64} (hs : size = request.bytes.length) (h0 : size ≠ 0)
    (ha : address.toNat = request.address.toNat % 2 ^ bits) (rest : List Buffer) :
    named? bits address size (request :: rest) = some request.bytes := by
  unfold named?
  rw [List.isEmpty_cons, if_neg Bool.false_ne_true, if_neg h0, lent?_first (by rw [ha, Nat.mod_mod])]
  show some (request.bytes.take size) = _
  rw [hs, List.take_length]

/-- **The server reads the request**, however it travels. -/
theorem input?_of_shows {p : Placement} (h : v.Shows b) (hc : b.Carries request.region reply.region p)
    (h0 : request.bytes.length ≠ 0) (hlen : request.bytes.length < 2 ^ 36) :
    input? v [request, reply] = some request.bytes := by
  unfold input?
  cases p with
  | static =>
    obtain ⟨d, hd, hfields⟩ := View.head?_of_map_eq h.sendStatics_parts hc.1
    obtain ⟨hsize, haddress⟩ := Prod.mk.inj hfields
    have hne : d.size ≠ 0 := fun hz => h0 (hsize.symm.trans (by rw [hz]; rfl))
    rw [hd]
    show (if d.size = 0 then _ else _) = _
    rw [if_neg hne]
    exact named?_first hsize (fun hz => h0 (hsize.symm.trans hz)) haddress _
  | mapped =>
    obtain ⟨hempty, -, ⟨m, hm, hregion⟩, -⟩ := hc
    obtain ⟨d, hd, hsize, haddress⟩ := View.buffer_head h.sendBuffers hm (by rw [hregion]; exact hlen)
    rw [hregion] at hsize haddress
    have hmapped : (v.sendBuffers.head?.bind fun d => named? bufferBits d.address d.size [request, reply]) =
        some request.bytes := by
      rw [hd, Option.bind_some]
      exact named?_first hsize (fun hz => h0 (hsize.symm.trans hz)) haddress _
    have hstatic := h.sendStatic_empty hempty
    cases hv : v.sendStatics.head? with
    | none => exact hmapped
    | some s =>
      show (if s.size = 0 then _ else _) = _
      rw [if_pos (hstatic s hv)]
      exact hmapped

/-- **The server puts its reply** where the client looks for it, if the descriptors tell the two buffers apart. -/
theorem output?_of_shows {p : Placement} (bs : Bytes) (h : v.Shows b) (hc : b.Carries request.region reply.region p)
    (h0 : reply.bytes.length ≠ 0) (hlen : reply.bytes.length < 2 ^ 36)
    (hne : request.address.toNat % 2 ^ 48 ≠ reply.address.toNat % 2 ^ 48) :
    output? v [request, reply] bs = some ⟨reply.address, bs.take reply.bytes.length⟩ ∧
      v.usesRecvList = decide (p = .static) := by
  unfold output? View.usesRecvList
  cases p with
  | static =>
    obtain ⟨e, he, hfields⟩ := View.head?_of_map_eq h.recvList hc.2
    obtain ⟨hsize, haddress⟩ := Prod.mk.inj hfields
    have hne0 : e.size ≠ 0 := fun hz => h0 (hsize.symm.trans (by rw [hz]; rfl))
    have hlent : lent? entryBits e.address [request, reply] = some reply :=
      lent?_second (Nat.le_refl _) hne haddress
    rw [he]
    show (if e.size = 0 then _ else (lent? entryBits e.address [request, reply]).map fun b =>
      (⟨b.address, bs.take e.size.toNat⟩ : Store)) = _ ∧ (e.size != 0) = true
    rw [if_neg hne0, hlent, hsize]
    exact ⟨rfl, bne_iff_ne.2 hne0⟩
  | mapped =>
    obtain ⟨-, hempty, -, ⟨m, hm, hregion⟩⟩ := hc
    obtain ⟨d, hd, hsize, haddress⟩ := View.buffer_head h.recvBuffers hm (by rw [hregion]; exact hlen)
    rw [hregion] at hsize haddress
    have hlent : lent? bufferBits d.address [request, reply] = some reply :=
      lent?_second (by decide) hne haddress
    have hmapped : (v.recvBuffers.head?.bind fun d => (lent? bufferBits d.address [request, reply]).map fun b =>
        (⟨b.address, bs.take d.size⟩ : Store)) = some ⟨reply.address, bs.take reply.bytes.length⟩ := by
      rw [hd, Option.bind_some, hlent, hsize]
      rfl
    have hentry := h.recvEntry_empty hempty
    cases hv : v.recvList.head? with
    | none => exact ⟨hmapped, rfl⟩
    | some e =>
      have hz := hentry e hv
      show (if e.size = 0 then _ else _) = _ ∧ (e.size != 0) = false
      rw [if_pos hz, hz]
      exact ⟨hmapped, rfl⟩

end Script
end HorizonIpc
