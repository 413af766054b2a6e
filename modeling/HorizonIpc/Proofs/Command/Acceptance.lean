import HorizonIpc.Proofs.Command.Capacity
import HorizonIpc.Proofs.Command.Format
import HorizonIpc.Proofs.Guarded.Request
/-!
# Proofs.Command.Acceptance — which requests are laid out

A request is laid out exactly if its sections take up at most the 256 bytes of a message (`Format.extent`).  Whether
they do is decided by three checks one after the other, of the payload, of the data words and of the whole; eight items
of a category are never too many, so nothing else can be refused (`acceptance`).
-/
namespace HorizonIpc

/-- How many bytes the sections of a request take up. -/
def Format.extent (b : Builder) (payloadSize : Nat) : Nat :=
  8 + (if b.sendPid ∨ b.copyHandles ≠ [] ∨ b.moveHandles ≠ [] then 4 else 0) + (if b.sendPid then 8 else 0) +
    4 * (b.copyHandles.length + b.moveHandles.length) + 8 * b.sendStatics.length +
    12 * (b.sendBuffers.length + b.recvBuffers.length) + 4 * words b payloadSize + 8 * b.recvStatics.length

namespace Builder

variable {b : Builder} {type : UInt16} {payloadSize : Nat} {m : Message}

theorem needsSpecial_shape (b : Builder) (type : UInt16) (payloadSize : Nat) :
    (b.shape type payloadSize).needsSpecial = true ↔ b.sendPid ∨ b.copyHandles ≠ [] ∨ b.moveHandles ≠ [] := by
  rw [needsSpecial_eq]
  unfold Format.announces
  simp [or_assoc]

/-- **The layout of a request ends** behind the bytes of its sections. -/
theorem stop_shape (b : Builder) (type : UInt16) (payloadSize : Nat) :
    (Layout.ofShape (b.shape type payloadSize)).stop = Format.extent b payloadSize := by
  have hspecial : Frame.sectionsStart (b.shape type payloadSize).needsSpecial =
      8 + if b.sendPid ∨ b.copyHandles ≠ [] ∨ b.moveHandles ≠ [] then 4 else 0 := by
    unfold Frame.sectionsStart
    simp only [needsSpecial_shape]
    rfl
  have hwords : (b.shape type payloadSize).dataWords = Format.words b payloadSize := b.dataWords_eq payloadSize
  have hpid : (if (b.shape type payloadSize).sendPid then 8 else 0) = if b.sendPid then 8 else 0 := rfl
  have hcopies : (b.shape type payloadSize).copyHandles = b.copyHandles.length := rfl
  have hmoves : (b.shape type payloadSize).moveHandles = b.moveHandles.length := rfl
  have hstatics : (b.shape type payloadSize).sendStatics = b.sendStatics.length := rfl
  have hsends : (b.shape type payloadSize).sendBuffers = b.sendBuffers.length := rfl
  have hrecvs : (b.shape type payloadSize).recvBuffers = b.recvBuffers.length := rfl
  have hexchs : (b.shape type payloadSize).exchBuffers = 0 := rfl
  rw [Layout.stop_ofShape, Shape.total, hspecial, hwords, Guarded.recvCount_shape, hpid, hcopies, hmoves, hstatics,
    hsends, hrecvs, hexchs]
  unfold Format.extent
  omega

theorem Capped.counts_shape (hb : b.Capped) (type : UInt16) (payloadSize : Nat) :
    (b.shape type payloadSize).counts.any (· > Shape.maxCount) = false := by
  have hle : ∀ n ∈ (b.shape type payloadSize).counts, n ≤ 8 := by
    simp only [Shape.counts, shape, List.forall_mem_cons, List.not_mem_nil, false_implies, implies_true, and_true]
    exact ⟨hb .sendStatics, hb .sendBuffers, hb .recvBuffers, Nat.zero_le _, hb .copyHandles, hb .moveHandles⟩
  rw [List.any_eq_false]
  intro n hn
  have hfew := hle n hn
  unfold Shape.maxCount
  simp only [gt_iff_lt, decide_eq_true_eq]
  omega

theorem Capped.recvModeFits_shape (hb : b.Capped) (type : UInt16) (payloadSize : Nat) :
    Shape.recvModeFits (b.shape type payloadSize).recvMode = true := by
  have hfew : b.recvStatics.length ≤ 8 := hb .recvStatics
  unfold shape
  cases hr : b.recvStatics with
  | nil => rfl
  | cons r rs =>
    rw [hr] at hfew
    have hpair : 0 < (r :: rs).length ∧ (r :: rs).length ≤ Shape.maxCount - 2 := by
      unfold Shape.maxCount
      exact ⟨Nat.zero_lt_succ _, Nat.le_trans hfew (by decide)⟩
    simpa only [List.isEmpty_cons, Bool.false_eq_true, if_false, Shape.recvModeFits, Bool.and_eq_true,
      decide_eq_true_eq] using hpair

/-- **Validation looks at the data words alone**: a builder never holds too many items of a category. -/
theorem Capped.validate_shape (hb : b.Capped) (type : UInt16) (payloadSize : Nat) :
    (b.shape type payloadSize).validate =
      if Format.words b payloadSize > 0x3FF then .error .tooManyDataWords else .ok () := by
  have hwords : (b.shape type payloadSize).dataWords = Format.words b payloadSize := b.dataWords_eq payloadSize
  unfold Shape.validate
  rw [hb.counts_shape, hb.recvModeFits_shape, hwords]
  rfl

theorem words_le_of_extent (h : Format.extent b payloadSize ≤ 0x100) :
    payloadSize ≤ 0xFFC ∧ Format.words b payloadSize ≤ 0x3FF := by
  unfold Format.extent at h
  have hwords : Format.words b payloadSize ≤ 0x40 := by omega
  refine ⟨?_, by omega⟩
  unfold Format.words Format.table at hwords
  omega

/-- What becomes of a request with a payload of that size: the outcome, and the message that is left. -/
structure Decided (b : Builder) (payloadSize : Nat) (m : Message) (run : Except BuildError Slot × Message) : Prop where
  accepted : (∃ slot, run.1 = .ok slot) ↔ Format.extent b payloadSize ≤ 0x100
  tooManyDataWords : 0xFFC < payloadSize ∨ 0x3FF < Format.words b payloadSize →
    run = (.error (.layout .tooManyDataWords), m)
  outOfBounds : payloadSize ≤ 0xFFC → Format.words b payloadSize ≤ 0x3FF → 0x100 < Format.extent b payloadSize →
    run = (.error (.layout .outOfBounds), m)
  failed : ∀ e, run.1 = .error e → (e = .layout .tooManyDataWords ∨ e = .layout .outOfBounds) ∧ run.2 = m

/-- The three ways that a request with a payload of that size can go. -/
def Checked (b : Builder) (payloadSize : Nat) (m : Message) (run : Except BuildError Slot × Message) : Prop :=
  (0xFFC < payloadSize ∨ 0x3FF < Format.words b payloadSize) ∧ run = (.error (.layout .tooManyDataWords), m) ∨
    (payloadSize ≤ 0xFFC ∧ Format.words b payloadSize ≤ 0x3FF ∧ 0x100 < Format.extent b payloadSize) ∧
      run = (.error (.layout .outOfBounds), m) ∨
    Format.extent b payloadSize ≤ 0x100 ∧ ∃ slot m', run = (.ok slot, m')

theorem Checked.decided {run : Except BuildError Slot × Message} (h : Checked b payloadSize m run) :
    Decided b payloadSize m run := by
  rcases h with ⟨hlong, rfl⟩ | ⟨⟨hpayload, hwords, hlarge⟩, rfl⟩ | ⟨hfits, slot, m', rfl⟩
  · have hlarge : ¬ Format.extent b payloadSize ≤ 0x100 := by
      intro hfits
      have hle := words_le_of_extent hfits
      omega
    exact
      { accepted := ⟨nofun, fun hfits => absurd hfits hlarge⟩
        tooManyDataWords := fun _ => rfl
        outOfBounds := fun hpayload hwords _ => by omega
        failed := by
          rintro e ⟨⟩
          exact ⟨.inl rfl, rfl⟩ }
  · exact
      { accepted := ⟨nofun, fun hfits => absurd hfits (Nat.not_le.2 hlarge)⟩
        tooManyDataWords := fun hlong => by omega
        outOfBounds := fun _ _ _ => rfl
        failed := by
          rintro e ⟨⟩
          exact ⟨.inr rfl, rfl⟩ }
  · have hle := words_le_of_extent hfits
    exact
      { accepted := ⟨fun _ => hfits, fun _ => ⟨slot, rfl⟩⟩
        tooManyDataWords := fun hlong => by omega
        outOfBounds := fun _ _ hlarge => absurd hfits (Nat.not_le.2 hlarge)
        failed := nofun }

/-- **The checks of a request** are made one after the other, and nothing is written before the last of them. -/
theorem Capped.checked_finalize (hb : b.Capped) (type : UInt16) (payloadSize : Nat) (m : Message) :
    Checked b payloadSize m ((b.finalize type payloadSize).on m) := by
  have hvalid := hb.validate_shape type payloadSize
  have hstop := b.stop_shape type payloadSize
  by_cases hlong : 0xFFC < payloadSize
  · have hstep : payloadSize > Shape.maxDataWords * Layout.wordWidth := hlong
    refine .inl ⟨.inl hlong, ?_⟩
    unfold finalize
    simp only [hstep, if_true, Attempt.on_bind, Attempt.on_throw]
  have hstep : ¬ payloadSize > Shape.maxDataWords * Layout.wordWidth := hlong
  by_cases hwords : 0x3FF < Format.words b payloadSize
  · rw [if_pos hwords] at hvalid
    refine .inl ⟨.inr hwords, ?_⟩
    unfold finalize Frame.start
    simp [hstep, hvalid]
  rw [if_neg hwords] at hvalid
  by_cases hlarge : 0x100 < Format.extent b payloadSize
  · have hbounds : (Layout.ofShape (b.shape type payloadSize)).stop > Message.size := by
      rw [hstop]
      exact hlarge
    refine .inr (.inl ⟨⟨Nat.le_of_not_lt hlong, Nat.le_of_not_lt hwords, hlarge⟩, ?_⟩)
    unfold finalize Frame.start Layout.ofShape?
    simp [hstep, hvalid, hbounds]
  · have hfits : b.Fits type payloadSize := by
      refine ⟨Nat.le_of_not_lt hlong, hvalid, ?_⟩
      rw [hstop]
      exact Nat.le_of_not_lt hlarge
    exact .inr (.inr ⟨Nat.le_of_not_lt hlarge, finalize_of_fits hfits m⟩)

/-- **A request is started exactly if it is laid out**, and with the same outcome: the header fits any payload that a
request is laid out with. -/
theorem start_outcome (b : Builder) (type : CommandType) (command : UInt32) (dataSize : Nat) (m : Message) :
    ((Request.start b type command dataSize).on m).1 = ((b.finalize type.code (16 + dataSize)).on m).1 ∧
      ∀ e m', (b.finalize type.code (16 + dataSize)).on m = (.error e, m') →
        (Request.start b type command dataSize).on m = (.error e, m') := by
  have hwidth : PayloadHeader.width + dataSize = 16 + dataSize := rfl
  rw [← hwidth]
  rcases hf : (b.finalize type.code (PayloadHeader.width + dataSize)).on m with ⟨e | slot, m'⟩
  · have hstart : (Request.start b type command dataSize).on m = (.error e, m') := by
      unfold Request.start
      rw [Attempt.on_bind, hf]
    rw [hstart]
    refine ⟨rfl, ?_⟩
    rintro _ _ ⟨⟩
    rfl
  · rw [Request.start_on hf]
    exact ⟨rfl, nofun⟩

theorem Capped.checked_start (hb : b.Capped) (type : CommandType) (command : UInt32) (dataSize : Nat) (m : Message) :
    Checked b (16 + dataSize) m ((Request.start b type command dataSize).on m) := by
  obtain ⟨houtcome, hfailed⟩ := start_outcome b type command dataSize m
  rcases hb.checked_finalize type.code (16 + dataSize) m with ⟨hlong, hf⟩ | ⟨hlarge, hf⟩ | ⟨hfits, slot, m', hf⟩
  · exact .inl ⟨hlong, hfailed _ _ hf⟩
  · exact .inr (.inl ⟨hlarge, hfailed _ _ hf⟩)
  · rw [hf] at houtcome
    exact .inr (.inr ⟨hfits, slot, ((Request.start b type command dataSize).on m).2, Prod.ext houtcome rfl⟩)

/-- **When a request is accepted.**  Whatever was added to the builder and whatever the message held, laying a request
out meets no fault, and succeeds exactly if its sections take up no more bytes than a message has.  A payload or data
words that the header cannot announce are refused before sections that the message has no room for, and a refused
request leaves the message as it was.  A request that is to carry a command, or a control request, goes as laying out a
payload with room for the header and the arguments, also where the size of both is no machine word. -/
theorem acceptance (additions : List Addition) (m : Message) :
    let b := (addAll additions .empty).2
    (∀ type payloadSize, ∃ run, Guarded.finalize b type payloadSize m = some run ∧
        run = (b.finalize type payloadSize).on m ∧ Decided b payloadSize m run) ∧
      (∀ command dataSize, ∃ run, Guarded.startRequest b .request command dataSize m = some run ∧
        run = (Request.service b command dataSize).on m ∧ Decided b (16 + dataSize) m run ∧
        run.1 = ((b.finalize CommandType.request.code (16 + dataSize)).on m).1) ∧
      ∀ command dataSize, ∃ run, Guarded.startRequest .empty .control command dataSize m = some run ∧
        run = (Request.control command dataSize).on m ∧ Decided .empty (16 + dataSize) m run ∧
        run.1 = ((empty.finalize CommandType.control.code (16 + dataSize)).on m).1 := by
  intro b
  have hb : b.Capped := Capped.addAll additions capped_empty
  have hempty := capped_empty
  refine ⟨fun type payloadSize => ?_, fun command dataSize => ?_, fun command dataSize => ?_⟩
  · exact ⟨_, Guarded.finalize_eq (hb .recvStatics) type payloadSize m, rfl,
      (hb.checked_finalize type payloadSize m).decided⟩
  · exact ⟨_, Guarded.startRequest_eq (hb .recvStatics) .request command dataSize m, rfl,
      (hb.checked_start .request command dataSize m).decided, (start_outcome b .request command dataSize m).1⟩
  · exact ⟨_, Guarded.startRequest_eq (hempty .recvStatics) .control command dataSize m, rfl,
      (hempty.checked_start .control command dataSize m).decided,
      (start_outcome .empty .control command dataSize m).1⟩

end Builder
end HorizonIpc
