import HorizonIpc.Proofs.Command.Failure
import HorizonIpc.Proofs.Frame.Framing
/-!
# Proofs.Command.ReplyRoundTrip — a client reads what the server replied

A reply is written exactly if its lists are short enough and its sections fit a message, and every part of it is then
written inside the message.  A client that expects as much data as there is, or less, reads that data and every handle
and static; one that expects more reads zeros behind the data, or is told that the reply is truncated
(`write_read_back`).
-/
namespace HorizonIpc

open Bytes (zeros)

/-- **What an accepted reply hands out beside its data**: every handle, and every static in its order, cut to the bits
that its descriptor keeps. -/
structure Response.CarriesItems (a : Response) (r : Reply) : Prop where
  copyHandles : a.copyHandles = r.copyHandles
  moveHandles : a.moveHandles = r.moveHandles
  sendStatics : a.sendStatics.map (fun d => (d.index.toNat, d.size.toNat, d.address.toNat)) =
    r.sendStatics.zipIdx.map fun (s, i) => (i, s.length % 2 ^ 16, s.address.toNat % 2 ^ 42)

namespace Reply

variable {r : Reply} {m m' : Message}

/-- What writing a reply puts into a started message: each part with the offset where it starts. -/
def parts (r : Reply) : List (Nat × Bytes) :=
  let l := Layout.ofShape r.shape
  let start := alignUp PayloadHeader.alignment l.dataWords
  [(l.copyHandles, Builder.encodeHandles r.copyHandles), (l.moveHandles, Builder.encodeHandles r.moveHandles),
    (l.sendStatics, Builder.encodeStatics r.sendStatics), (start, (PayloadHeader.response r.status).encode),
    (start + PayloadHeader.width, r.data)]

/-- **Which replies can be written**: fifteen handles of each kind, fifteen statics, 1023 data words, and a message that
holds them all. -/
structure Fits (r : Reply) : Prop where
  copyHandles : r.copyHandles.length ≤ 15
  moveHandles : r.moveHandles.length ≤ 15
  sendStatics : r.sendStatics.length ≤ 15
  dataWords : r.shape.dataWords ≤ 0x3FF
  total : r.shape.total ≤ Message.size

theorem fits_iff (r : Reply) : r.Fits ↔ r.shape.Announceable ∧ r.shape.total ≤ Message.size := by
  constructor
  · rintro ⟨hc, hm, hs, hd, ht⟩
    exact ⟨⟨by simp [shape, hc, hm, hs], by simp [shape], hd⟩, ht⟩
  · rintro ⟨⟨hcounts, -, hd⟩, ht⟩
    simp only [shape, List.forall_mem_cons] at hcounts
    exact ⟨hcounts.2.2.2.2.1, hcounts.2.2.2.2.2.1, hcounts.1, hd, ht⟩

theorem write_on_of_fits (h : r.Fits) (m : Message) :
    r.write.on m = (.ok (), r.parts.foldl (fun m part => m.write part.1 part.2) (Frame.blank r.shape)) := by
  have hstart : (Frame.start r.shape).on m = _ := Frame.start_on_iff.2 ⟨r.fits_iff.1 h, rfl, rfl⟩
  unfold write
  simp only [Attempt.on_bind, Attempt.on_mapError, hstart, Attempt.mapError_ok, Attempt.on_modify]
  rfl

theorem write_on_of_not_fits (h : ¬ r.Fits) (m : Message) : ∃ e, r.write.on m = (.error e, m) := by
  obtain ⟨o, m₁, hs⟩ : ∃ o m₁, (Frame.start r.shape).on m = (o, m₁) := ⟨_, _, rfl⟩
  cases o with
  | ok l => exact absurd (r.fits_iff.2 (Frame.start_on_iff.1 hs).1) h
  | error e =>
    rw [Frame.start_error hs] at hs
    exact ⟨.layout e, by simp [write, hs]⟩

theorem parts_inside (h : r.Fits) : ∀ part ∈ r.parts, part.1 + part.2.length ≤ Message.size := by
  have hend : (Layout.ofShape r.shape).stop ≤ Message.size := by rw [Layout.stop_ofShape]; exact h.total
  obtain ⟨hcopy, hmove, hstatics, -, -, -, hwords, -⟩ := (Layout.consecutive_ofShape r.shape).ends_le hend
  have hroom : 32 + r.data.length ≤ r.shape.dataWords * 4 := le_alignUp (u := 4) (by decide) _
  have halign := alignUp_lt (u := 16) (by decide) (Layout.ofShape r.shape).dataWords
  have hhandles : ∀ hs : List UInt32, (Builder.encodeHandles hs).length = hs.length * 4 :=
    Bytes.length_flatMap Bytes.length_ofUInt32
  have hheader : (PayloadHeader.response r.status).encode.length = 16 := PayloadHeader.length_encode _
  simp only [parts, PayloadHeader.width, PayloadHeader.alignment, List.forall_mem_cons, List.not_mem_nil, false_imp_iff,
    implies_true, and_true, hhandles, Builder.length_encodeStatics, hheader]
  exact ⟨hcopy, hmove, hstatics, by omega, by omega⟩

/-- **A client that expects data finds it**, with zeros behind it as far as the data words go. -/
theorem ofMessage_success (hs : r.status = 0) (h : r.write.on m = (.ok (), m')) (hf : r.Fits) {n : Nat}
    (hn : n ≤ r.data.length + r.slack) :
    ∃ a, Response.ofMessage m' n = .ok a ∧ a.data = (r.data ++ zeros r.slack).take n ∧ a.CarriesItems r := by
  obtain ⟨data, hd, hv, hshown, hdata⟩ := shown_write h
  have hread := ofMessage_of_shown hv hshown hdata (Bytes.length_zeros _)
    (show n ≤ _ by rw [List.length_append, Bytes.length_zeros]; exact hn)
  rw [hs] at hread
  exact ⟨_, hread, rfl, rfl, rfl, Builder.staticDescriptors_low hf.sendStatics⟩

/-- **A client reads what the server replied.**  A reply of success either does not fit and leaves the message as it was,
or it is written, with every part inside the message.  Then a client that expects as much data as there is, or less,
reads that much of it, every handle and every static; one that expects more is told that the reply is truncated, or reads
zeros behind the data. -/
theorem write_read_back (hs : r.status = 0) (m : Message) :
    (¬ r.Fits ∧ ∃ e, r.write.on m = (.error e, m)) ∨
    (r.Fits ∧ ∃ m', r.write.on m = (.ok (), m') ∧
      (m' = r.parts.foldl (fun m part => m.write part.1 part.2) (Frame.blank r.shape) ∧
        ∀ part ∈ r.parts, part.1 + part.2.length ≤ Message.size) ∧
      (∀ n ≤ r.data.length, ∃ a, Response.ofMessage m' n = .ok a ∧ a.data = r.data.take n ∧ a.CarriesItems r) ∧
      ∀ n > r.data.length, Response.ofMessage m' n = .error .truncated ∨
        ∃ a, Response.ofMessage m' n = .ok a ∧ a.data = r.data ++ zeros (n - r.data.length) ∧ a.CarriesItems r) := by
  by_cases hf : r.Fits
  · have h := write_on_of_fits hf m
    refine .inr ⟨hf, _, h, ⟨rfl, parts_inside hf⟩, ?_, ?_⟩
    · intro n hn
      obtain ⟨a, hread, hdata, ha⟩ := ofMessage_success hs h hf (n := n) (by omega)
      rw [List.take_append_of_le_length hn] at hdata
      exact ⟨a, hread, hdata, ha⟩
    · intro n hn
      -- the data words hold whole words behind an aligned header, so more than the data may be found there
      by_cases hroom : n ≤ r.data.length + r.slack
      · obtain ⟨a, hread, hdata, ha⟩ := ofMessage_success hs h hf hroom
        refine .inr ⟨a, hread, ?_, ha⟩
        rw [hdata, List.take_append, List.take_of_length_le (Nat.le_of_lt hn), zeros, List.take_replicate,
          Nat.min_eq_left (by omega)]
        rfl
      · obtain ⟨v, hv, hslack⟩ := reports_write h
        exact .inl (hv.ofMessage_truncated (by omega))
  · exact .inl ⟨hf, write_on_of_not_fits hf m⟩

/-- A reply with data, handles and a static that is longer and lies higher than a descriptor can say. -/
theorem write_read_back_static :
    let r : Reply := {
      data := [1, 2, 3, 4, 5], copyHandles := [7], moveHandles := [8, 9], sendStatics := [⟨0x7F000012345678, 0x20030⟩] }
    r.status = 0 ∧ r.Fits ∧ ∃ m', r.write.on (.filled 0xEE) = (.ok (), m') ∧
      ∃ a, Response.ofMessage m' 5 = .ok a ∧ a.data = [1, 2, 3, 4, 5] ∧ a.CarriesItems r := by
  intro r
  have hf : r.Fits := ⟨by decide, by decide, by decide, by decide, by decide⟩
  obtain ⟨hno, -⟩ | ⟨-, m', h, -, hread, -⟩ := write_read_back (r := r) rfl (.filled 0xEE)
  · exact absurd hf hno
  · obtain ⟨a, ha, hdata, hitems⟩ := hread 5 (by decide)
    exact ⟨rfl, hf, m', h, a, ha, hdata, hitems⟩

end Reply
end HorizonIpc
