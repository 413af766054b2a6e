import HorizonIpc.Frame.View
/-!
# Proofs.Frame.Sections — where the sections of a message lie

`Layout.Consecutive` is the reference layout: from where the first section starts, every section follows the one before
it.  A layout is consecutive from behind the special header where its shape needs one (`consecutive_ofShape`), so the
sections of a message that is accepted start behind a special header that announces something; a header may also raise
its flag over a special header that announces nothing, and then the sections start four bytes too early
(`layout_consecutive_iff`).
-/
namespace HorizonIpc

/-- Where the first section starts: behind the header, and behind the special header where there is one. -/
def Frame.sectionsStart (hasSpecial : Bool) : Nat := Header.width + if hasSpecial then SpecialHeader.width else 0

/-- **The sections follow each other without gaps** from `start` on, each as long as its entries. -/
structure Layout.Consecutive (l : Layout) (start : Nat) (s : Shape) : Prop where
  pid : l.pid = if s.sendPid then some start else none
  copyHandles : l.copyHandles = start + if s.sendPid then 8 else 0
  moveHandles : l.moveHandles = l.copyHandles + s.copyHandles * 4
  sendStatics : l.sendStatics = l.moveHandles + s.moveHandles * 4
  sendBuffers : l.sendBuffers = l.sendStatics + s.sendStatics * 8
  recvBuffers : l.recvBuffers = l.sendBuffers + s.sendBuffers * 12
  exchBuffers : l.exchBuffers = l.recvBuffers + s.recvBuffers * 12
  dataWords : l.dataWords = l.exchBuffers + s.exchBuffers * 12
  recvList : l.recvList = l.dataWords + s.dataWords * 4
  stop : l.stop = l.recvList + s.recvCount * 8

/-- The bytes that a message of the shape takes. -/
def Shape.total (s : Shape) : Nat :=
  Frame.sectionsStart s.needsSpecial + (if s.sendPid then 8 else 0) + (s.copyHandles + s.moveHandles) * 4 +
    s.sendStatics * 8 + (s.sendBuffers + s.recvBuffers + s.exchBuffers) * 12 + s.dataWords * 4 + s.recvCount * 8

namespace Layout

theorem consecutive_ofShape (s : Shape) : (ofShape s).Consecutive (Frame.sectionsStart s.needsSpecial) s :=
  ⟨rfl, rfl, rfl, rfl, rfl, rfl, rfl, rfl, rfl, rfl⟩

theorem Consecutive.start_inj {l : Layout} {a b : Nat} {s : Shape} (ha : l.Consecutive a s) (hb : l.Consecutive b s) :
    a = b :=
  Nat.add_right_cancel (ha.copyHandles.symm.trans hb.copyHandles)

theorem Consecutive.ends_le {l : Layout} {start n : Nat} {s : Shape} (h : l.Consecutive start s) (hn : l.stop ≤ n) :
    l.copyHandles + s.copyHandles * 4 ≤ n ∧ l.moveHandles + s.moveHandles * 4 ≤ n ∧
      l.sendStatics + s.sendStatics * 8 ≤ n ∧ l.sendBuffers + s.sendBuffers * 12 ≤ n ∧
      l.recvBuffers + s.recvBuffers * 12 ≤ n ∧ l.exchBuffers + s.exchBuffers * 12 ≤ n ∧
      l.dataWords + s.dataWords * 4 ≤ n ∧ l.recvList + s.recvCount * 8 ≤ n := by
  obtain ⟨-, -, h2, h3, h4, h5, h6, h7, h8, h9⟩ := h
  omega

theorem stop_ofShape (s : Shape) : (ofShape s).stop = s.total := by
  have h := consecutive_ofShape s
  rw [h.stop, h.recvList, h.dataWords, h.exchBuffers, h.recvBuffers, h.sendBuffers, h.sendStatics, h.moveHandles,
    h.copyHandles, Shape.total]
  omega

theorem ofShape?_eq_ok_iff {s : Shape} {l : Layout} : ofShape? s = .ok l ↔ s.total ≤ Message.size ∧ l = ofShape s := by
  unfold ofShape?
  rw [stop_ofShape]
  by_cases h : s.total ≤ Message.size
  · simp [h, Nat.not_lt.2 h, eq_comm]
  · simp [h, Nat.lt_of_not_le h]

end Layout

/-- Whether the special header announces a process id or any handles. -/
def SpecialHeader.announces (h : SpecialHeader) : Bool := h.sendPid || h.copyHandles != 0 || h.moveHandles != 0

theorem Shape.needsSpecial_ofHeaders (h : Header) (special : SpecialHeader) :
    (ofHeaders h special).needsSpecial = (h.hasSpecial && special.announces) := by
  have hpos : ∀ b : BitVec 4, decide (b.toNat > 0) = (b != 0) := by decide
  cases hf : h.hasSpecial with
  | true => simp [needsSpecial, ofHeaders, SpecialHeader.announces, hf, hpos]
  | false => simp [needsSpecial, ofHeaders, hf]

namespace View

open HorizonIpc.Frame

variable {m : Message} {v : View}

theorem ofMessage_eq_ok_iff :
    ofMessage m = .ok v ↔ (Shape.ofHeaders (headerOf m) (specialOf m)).total ≤ Message.size ∧
      v = ⟨m, Shape.ofHeaders (headerOf m) (specialOf m), .ofShape (Shape.ofHeaders (headerOf m) (specialOf m))⟩ := by
  unfold ofMessage
  dsimp only
  cases hl : Layout.ofShape? (Shape.ofHeaders (headerOf m) (specialOf m)) with
  | error e =>
    have hno : ¬ _ := fun hfit => absurd (Layout.ofShape?_eq_ok_iff.2 ⟨hfit, rfl⟩) (by rw [hl]; simp)
    simp [Except.map, hno]
  | ok l =>
    obtain ⟨hfit, rfl⟩ := Layout.ofShape?_eq_ok_iff.1 hl
    simp [Except.map, hfit, eq_comm]

/-- **The layout follows the special-header flag exactly if the flag is not raised over an empty special header.**  Over
an empty one the sections start as if there were none. -/
theorem layout_consecutive_iff (h : ofMessage m = .ok v) :
    v.shape = Shape.ofHeaders (headerOf m) (specialOf m) ∧
      v.layout.Consecutive (sectionsStart ((headerOf m).hasSpecial && (specialOf m).announces)) v.shape ∧
      (v.layout.Consecutive (sectionsStart (headerOf m).hasSpecial) v.shape ↔
        ((headerOf m).hasSpecial = true → (specialOf m).announces = true)) := by
  obtain ⟨-, rfl⟩ := ofMessage_eq_ok_iff.1 h
  have hlay := Layout.consecutive_ofShape (Shape.ofHeaders (headerOf m) (specialOf m))
  rw [Shape.needsSpecial_ofHeaders] at hlay
  refine ⟨rfl, hlay, ?_⟩
  constructor
  · intro hflag hf
    cases hs : (specialOf m).announces with
    | true => rfl
    | false =>
      -- the same sections would start at 8 and at 12
      rw [hf] at hflag
      rw [hf, hs] at hlay
      exact absurd (hlay.start_inj hflag) (by decide)
  · intro hsome
    cases hf : (headerOf m).hasSpecial with
    | true => simpa [hf, hsome hf] using hlay
    | false => simpa [hf] using hlay

/-- A flag raised over an announced process id and a copied handle: the sections start behind the special header. -/
theorem layout_consecutive_pid :
    let m := Message.ofBytes [4, 0, 0, 0, 1, 0, 0, 0x80, 3, 0, 0, 0]
    (headerOf m).hasSpecial = true ∧ ∃ v, ofMessage m = .ok v ∧ v.shape.sendPid = true ∧ v.shape.copyHandles = 1 ∧
      v.layout.Consecutive 12 v.shape := by
  intro m
  have hflag : (headerOf m).hasSpecial = true := by decide +kernel
  have hsome : (specialOf m).announces = true := by decide +kernel
  have hv := ofMessage_eq_ok_iff.2 ⟨show (Shape.ofHeaders (headerOf m) (specialOf m)).total ≤ _ by decide +kernel, rfl⟩
  have hlay := (layout_consecutive_iff hv).2.1
  rw [hflag, hsome] at hlay
  exact ⟨hflag, _, hv, by decide +kernel, by decide +kernel, hlay⟩

/-- A flag raised over an empty special header, and one data word: the data word is looked for in the special
header's place. -/
theorem layout_empty_special :
    let m := Message.ofBytes [0, 0, 0, 0, 1, 0, 0, 0x80, 0, 0, 0, 0, 0xAA, 0xBB, 0xCC, 0xDD]
    (headerOf m).hasSpecial = true ∧ ∃ v, ofMessage m = .ok v ∧ v.layout.dataWords = 8 ∧ v.dataWords = [0, 0, 0, 0] ∧
      ¬ v.layout.Consecutive (sectionsStart (headerOf m).hasSpecial) v.shape := by
  intro m
  have hflag : (headerOf m).hasSpecial = true := by decide +kernel
  refine ⟨hflag, _, ofMessage_eq_ok_iff.2 ⟨by decide +kernel, rfl⟩, by decide +kernel, by decide +kernel, fun hlay => ?_⟩
  have hdata := hlay.copyHandles
  rw [hflag] at hdata
  revert hdata
  decide +kernel

end View
end HorizonIpc
