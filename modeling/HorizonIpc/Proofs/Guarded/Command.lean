import HorizonIpc.Command.Server
import HorizonIpc.Proofs.Guarded.Frame
/-!
# Proofs.Guarded.Command — no reply leads outside its message

A command header is looked for at an aligned offset that may lie behind the end of the message, and the end of the data
may be no machine word at all; both are compared with the end of the data words before anything is read
(`payloadRange_eq`).  So reading a reply, and a request on the other side, meets no fault whatever the message says and
however much data is asked for (`response_eq`, `request_eq`).
-/
namespace HorizonIpc
namespace Guarded

/-! ## the guarded definitions -/

/-- The next offset at which a command header may start. -/
def align (n : Nat) : Option Nat := do
  let padded ← sum n (PayloadHeader.alignment - 1)
  return padded / PayloadHeader.alignment * PayloadHeader.alignment

/-- Where the command header starts and the data ends, if the data words hold both.  That the end of the data is not a
machine word is no fault: the program looks whether it is. -/
def payloadRange (v : View) (dataSize : Nat) : Option (Option (Nat × Nat)) := do
  let words ← dataWords v
  let wordsStop ← sum v.layout.dataWords words.length
  let headerStart ← align v.layout.dataWords
  let dataStart ← sum headerStart PayloadHeader.width
  match sum dataStart dataSize with
  | none => return none
  | some dataStop => return if dataStop ≤ wordsStop then some (headerStart, dataStop) else none

/-- Reads a reply.  The handles and the statics go into vectors with room for fifteen. -/
def response (m : Message) (dataSize : Nat) : Option (Except ReplyError Response) := do
  match ← view m with
  | .error e => return .error (.layout e)
  | .ok v =>
    match ← payloadRange v dataSize with
    | none => return .error .truncated
    | some (start, stop) =>
      let bytes ← slice m.bytes start stop
      if bytes.length < PayloadHeader.width then return .error .truncated
      let header := PayloadHeader.decode (bytes.take PayloadHeader.width)
      if header.magic ≠ PayloadHeader.responseMagic then return .error .invalidMagic
      match ErrorCode.ofWord? header.subject with
      | some e => return .error (.service e)
      | none =>
        let copies ← gather Shape.maxCount (← copyHandles v)
        let moves ← gather Shape.maxCount (← moveHandles v)
        let statics ← gather Shape.maxCount (← sendStatics v)
        return .ok ⟨bytes.drop PayloadHeader.width, copies, moves, statics⟩

def request (m : Message) : Option (Except ReplyError ServerRequest) := do
  match ← view m with
  | .error e => return .error (.layout e)
  | .ok v =>
    let type := CommandType.ofCode? v.shape.messageType
    if type = some .close then return .ok ⟨type, v, none, []⟩
    match ← payloadRange v 0 with
    | none => return .error .truncated
    | some (start, _) =>
      let stop ← sum v.layout.dataWords (← dataWords v).length
      let bytes ← slice m.bytes start stop
      if bytes.length < PayloadHeader.width then return .error .truncated
      let header := PayloadHeader.decode (bytes.take PayloadHeader.width)
      if header.magic ≠ PayloadHeader.requestMagic then return .error .invalidMagic
      return .ok ⟨type, v, some header.subject, bytes.drop PayloadHeader.width⟩

/-! ## reading -/

variable {m : Message} {v : View}

theorem align_eq {n : Nat} (h : n < 2 ^ 32) : align n = some (alignUp PayloadHeader.alignment n) := by
  have hlimit : 2 ^ 32 + PayloadHeader.alignment < wordLimit := by decide
  unfold align
  rw [sum_eq (by omega)]
  rfl

theorem dataStop_le (h : Contained v) : v.dataStop ≤ Message.size := by
  obtain ⟨first, -, hl, hstop⟩ := h
  exact (hl.ends_le hstop).2.2.2.2.2.2.1

theorem wordsStop_eq (h : Contained v) : (do sum v.layout.dataWords (← dataWords v).length) = some v.dataStop := by
  have hlimit : Message.size < wordLimit := by decide
  have hstop := dataStop_le h
  have hlen : v.dataWords.length = v.dataSize := Bytes.length_window (by rw [v.message.size_eq]; exact hstop)
  rw [h.accessible.dataWords, Option.bind_eq_bind, Option.bind_some, hlen]
  exact sum_eq (Nat.lt_of_le_of_lt hstop hlimit)

/-- **The payload is looked for without a fault**, wherever its header would start and however long it would be. -/
theorem payloadRange_eq (h : Contained v) (dataSize : Nat) :
    payloadRange v dataSize = some (
      if v.headerStart + PayloadHeader.width + dataSize ≤ v.dataStop then
        some (v.headerStart, v.headerStart + PayloadHeader.width + dataSize)
      else none) := by
  have hlimit : 2 ^ 33 < wordLimit := by decide
  have hstop := dataStop_le h
  have hwords := wordsStop_eq h
  rw [h.accessible.dataWords, Option.bind_eq_bind, Option.bind_some] at hwords
  have hinside : v.layout.dataWords ≤ 256 := Nat.le_trans (Nat.le_add_right _ _) hstop
  have hsmall : v.headerStart < v.layout.dataWords + 16 := alignUp_lt (by decide) _
  have halign : align v.layout.dataWords = some v.headerStart := align_eq (by omega)
  have hdata : sum v.headerStart PayloadHeader.width = some (v.headerStart + PayloadHeader.width) :=
    sum_eq (show _ + 16 < _ by omega)
  unfold payloadRange
  simp only [h.accessible.dataWords, hwords, halign, hdata, Option.bind_eq_bind, Option.bind_some]
  by_cases hfit : v.headerStart + PayloadHeader.width + dataSize < wordLimit
  · rw [sum_eq hfit]
    rfl
  -- an end that is no machine word lies far behind the message
  · have hover : sum (v.headerStart + PayloadHeader.width) dataSize = none := if_neg hfit
    have hbeyond : ¬ v.headerStart + PayloadHeader.width + dataSize ≤ v.dataStop := by
      have : Message.size < wordLimit := by decide
      omega
    rw [hover, if_neg hbeyond]
    rfl

theorem take_window {bs : Bytes} {start len n : Nat} (h : n ≤ len) : (bs.window start len).take n = bs.window start n := by
  unfold Bytes.window
  rw [List.take_take, Nat.min_eq_left h]

theorem drop_window (bs : Bytes) (start len n : Nat) :
    (bs.window start len).drop n = bs.window (start + n) (len - n) := by
  unfold Bytes.window
  rw [List.drop_take, List.drop_drop]

/-- **A command header and what follows it, cut out of the message**, where both end inside it. -/
theorem slice_payload {start stop : Nat} (hw : start + PayloadHeader.width ≤ stop) (hstop : stop ≤ Message.size) :
    ∃ bytes, slice m.bytes start stop = some bytes ∧ ¬ bytes.length < PayloadHeader.width ∧
      bytes.take PayloadHeader.width = m.window start PayloadHeader.width ∧
      bytes.drop PayloadHeader.width =
        m.window (start + PayloadHeader.width) (stop - (start + PayloadHeader.width)) := by
  have hend : stop ≤ m.bytes.length := by rw [m.size_eq]; exact hstop
  have hlen : (m.bytes.window start (stop - start)).length = stop - start := Bytes.length_window (by omega)
  refine ⟨_, slice_eq (by omega) hend, by omega, take_window (by omega), ?_⟩
  rw [drop_window, Nat.sub_sub]
  rfl

theorem lists_le (h : View.ofMessage m = .ok v) :
    v.copyHandles.length ≤ 15 ∧ v.moveHandles.length ≤ 15 ∧ v.sendStatics.length ≤ 15 := by
  obtain ⟨-, rfl⟩ := View.ofMessage_eq_ok_iff.1 h
  obtain ⟨h1, -, -, -, h5, h6⟩ := counts_le (Shape.announceable_ofHeaders (Frame.headerOf m) (Frame.specialOf m))
  unfold View.copyHandles View.moveHandles View.sendStatics
  simp only [List.length_map, Message.length_entries]
  exact ⟨h5, h6, h1⟩

/-- **A payload that is there can be cut out** of the message, and lies where the plain reader looks for it. -/
theorem payload_eq (h : View.ofMessage m = .ok v) {dataSize stop : Nat}
    (hfit : v.headerStart + PayloadHeader.width + dataSize ≤ v.dataStop)
    (hlow : v.headerStart + PayloadHeader.width ≤ stop) (hstop : stop ≤ v.dataStop) :
    ∃ bytes rest, slice m.bytes v.headerStart stop = some bytes ∧ ¬ bytes.length < PayloadHeader.width ∧
      v.payload? dataSize = some (.decode (bytes.take PayloadHeader.width), rest) ∧
      rest.length = v.dataStop - (v.headerStart + PayloadHeader.width) ∧
      bytes.drop PayloadHeader.width = rest.take (stop - (v.headerStart + PayloadHeader.width)) := by
  have hmessage : v.message = m := by
    obtain ⟨-, rfl⟩ := View.ofMessage_eq_ok_iff.1 h
    rfl
  have hinside := dataStop_le (contained_of_view h)
  obtain ⟨bytes, hslice, hlen, htake, hdrop⟩ := slice_payload (m := m) hlow (Nat.le_trans hstop hinside)
  refine ⟨bytes, m.window (v.headerStart + PayloadHeader.width) (v.dataStop - (v.headerStart + PayloadHeader.width)),
    hslice, hlen, ?_, Bytes.length_window ?_, ?_⟩
  · unfold View.payload?
    rw [hmessage, htake]
    exact if_pos hfit
  · rw [m.size_eq, Nat.add_sub_of_le (Nat.le_trans hlow hstop)]
    exact hinside
  · rw [hdrop]
    exact (take_window (Nat.sub_le_sub_right hstop _)).symm

theorem payload?_of_beyond {dataSize : Nat} (h : ¬ v.headerStart + PayloadHeader.width + dataSize ≤ v.dataStop) :
    v.payload? dataSize = none := if_neg h

/-- **Reading a reply meets no fault**, whatever the message says and however much data is asked for. -/
theorem response_eq (m : Message) (dataSize : Nat) : response m dataSize = some (Response.ofMessage m dataSize) := by
  unfold response Response.ofMessage
  rw [view_eq]
  cases hv : View.ofMessage m with
  | error e => rfl
  | ok v =>
    have hc := contained_of_view hv
    have ha := hc.accessible
    obtain ⟨h1, h2, h3⟩ := lists_le hv
    have hcopies : gather Shape.maxCount v.copyHandles = some v.copyHandles := gather_eq h1
    have hmoves : gather Shape.maxCount v.moveHandles = some v.moveHandles := gather_eq h2
    have hstatics : gather Shape.maxCount v.sendStatics = some v.sendStatics := gather_eq h3
    simp only [bind, Option.bind, Except.bind, Attempt.mapError_ok, payloadRange_eq hc]
    by_cases hfit : v.headerStart + PayloadHeader.width + dataSize ≤ v.dataStop
    · obtain ⟨bytes, rest, hslice, hlen, hpayload, -, hdrop⟩ := payload_eq hv hfit (Nat.le_add_right _ _) hfit
      rw [Nat.add_sub_cancel_left] at hdrop
      simp only [hfit, if_true, hslice, hlen, if_false, hpayload]
      split
      · rfl
      · cases ErrorCode.ofWord? (PayloadHeader.decode (bytes.take PayloadHeader.width)).subject with
        | some e => rfl
        | none =>
          simp only [ha.copyHandles, ha.moveHandles, ha.sendStatics, hcopies, hmoves, hstatics, hdrop]
          rfl
    · simp only [hfit, if_false, payload?_of_beyond hfit]
      rfl

/-- **So does reading a request** on the server's side. -/
theorem request_eq (m : Message) : request m = some (ServerRequest.ofMessage m) := by
  unfold request ServerRequest.ofMessage
  rw [view_eq]
  cases hv : View.ofMessage m with
  | error e => rfl
  | ok v =>
    have hc := contained_of_view hv
    simp only [bind, Option.bind, Except.bind, Attempt.mapError_ok, payloadRange_eq hc]
    split
    · rfl
    · have hwords := wordsStop_eq hc
      rw [hc.accessible.dataWords, Option.bind_eq_bind, Option.bind_some] at hwords
      by_cases hfit : v.headerStart + PayloadHeader.width + 0 ≤ v.dataStop
      · obtain ⟨bytes, rest, hslice, hlen, hpayload, hrest, hdrop⟩ := payload_eq hv hfit hfit (Nat.le_refl _)
        rw [List.take_of_length_le (Nat.le_of_eq hrest)] at hdrop
        simp only [hfit, if_true, hc.accessible.dataWords, hwords, hslice, hlen, if_false, hpayload, hdrop]
        split
        · rfl
        · rfl
      · simp only [hfit, if_false, payload?_of_beyond hfit]
        rfl

/-! ## what is handed out -/

section outcomes

variable {dataSize : Nat}

/-- **What becomes of a reply**: its framing is refused, it is refused for another reason, or what the view of its
message shows is handed out. -/
theorem response_cases (m : Message) (dataSize : Nat) :
    (∃ e, View.ofMessage m = .error e ∧ Response.ofMessage m dataSize = .error (.layout e)) ∨
      (∃ e, Response.ofMessage m dataSize = .error e ∧ ∀ f, e ≠ .layout f) ∨
      ∃ v header rest, View.ofMessage m = .ok v ∧ v.payload? dataSize = some (header, rest) ∧
        Response.ofMessage m dataSize =
          .ok ⟨rest.take dataSize, v.copyHandles, v.moveHandles, v.sendStatics⟩ := by
  unfold Response.ofMessage
  cases hv : View.ofMessage m with
  | error e => exact .inl ⟨e, rfl, rfl⟩
  | ok v =>
    simp only [bind, Except.bind, Attempt.mapError_ok]
    rcases hp : v.payload? dataSize with _ | ⟨header, rest⟩
    · exact .inr (.inl ⟨_, rfl, nofun⟩)
    by_cases hmagic : header.magic ≠ PayloadHeader.responseMagic
    · exact .inr (.inl ⟨.invalidMagic, if_pos hmagic, nofun⟩)
    simp only [hmagic, if_false]
    cases hs : ErrorCode.ofWord? header.subject with
    | some e => exact .inr (.inl ⟨_, rfl, nofun⟩)
    | none => exact .inr (.inr ⟨v, header, rest, rfl, hp, rfl⟩)

/-- **What becomes of a request**, likewise. -/
theorem request_cases (m : Message) :
    (∃ e, View.ofMessage m = .error e ∧ ServerRequest.ofMessage m = .error (.layout e)) ∨
      (∃ e, ServerRequest.ofMessage m = .error e ∧ ∀ f, e ≠ .layout f) ∨
      ∃ r, View.ofMessage m = .ok r.view ∧ ServerRequest.ofMessage m = .ok r := by
  unfold ServerRequest.ofMessage
  cases hv : View.ofMessage m with
  | error e => exact .inl ⟨e, rfl, rfl⟩
  | ok v =>
    simp only [bind, Except.bind, Attempt.mapError_ok]
    by_cases hclose : CommandType.ofCode? v.shape.messageType = some .close
    · exact .inr (.inr ⟨⟨_, v, none, []⟩, rfl, by simp only [hclose, if_true]; rfl⟩)
    simp only [hclose, if_false]
    rcases hp : v.payload? 0 with _ | ⟨header, rest⟩
    · exact .inr (.inl ⟨_, rfl, nofun⟩)
    by_cases hmagic : header.magic ≠ PayloadHeader.requestMagic
    · exact .inr (.inl ⟨.invalidMagic, if_pos hmagic, nofun⟩)
    · exact .inr (.inr ⟨⟨_, v, some header.subject, rest⟩, rfl, if_neg hmagic⟩)

/-- **An accepted reply has exactly the data that was asked for**, and no list of it is longer than its vector. -/
theorem response_ok {r : Response} (h : Response.ofMessage m dataSize = .ok r) :
    r.data.length = dataSize ∧ r.copyHandles.length ≤ 15 ∧ r.moveHandles.length ≤ 15 ∧ r.sendStatics.length ≤ 15 := by
  rcases response_cases m dataSize with ⟨e, -, he⟩ | ⟨e, he, -⟩ | ⟨v, header, rest, hv, hp, hr⟩
  · exact nomatch h.symm.trans he
  · exact nomatch h.symm.trans he
  obtain rfl := Except.ok.inj (h.symm.trans hr)
  refine ⟨?_, lists_le hv⟩
  by_cases hfit : v.headerStart + PayloadHeader.width + dataSize ≤ v.dataStop
  · obtain ⟨_, rest', -, -, hp', hlen, -⟩ := payload_eq hv hfit (Nat.le_add_right _ _) hfit
    obtain rfl : rest = rest' := congrArg Prod.snd (Option.some.inj (hp.symm.trans hp'))
    show (rest.take dataSize).length = dataSize
    rw [List.length_take, hlen]
    omega
  · rw [payload?_of_beyond hfit] at hp
    cases hp

theorem layoutError_of_response {e : LayoutError} (h : Response.ofMessage m dataSize = .error (.layout e)) :
    e = .outOfBounds := by
  rcases response_cases m dataSize with ⟨e', hv, he⟩ | ⟨e', he, hne⟩ | ⟨v, _, _, -, -, hr⟩
  · obtain rfl := ReplyError.layout.inj (Except.error.inj (h.symm.trans he))
    exact layoutError_of_view hv
  · exact (hne e (Except.error.inj (he.symm.trans h))).elim
  · exact nomatch h.symm.trans hr

theorem layoutError_of_request {e : LayoutError} (h : ServerRequest.ofMessage m = .error (.layout e)) :
    e = .outOfBounds := by
  rcases request_cases m with ⟨e', hv, he⟩ | ⟨e', he, hne⟩ | ⟨r, -, hr⟩
  · obtain rfl := ReplyError.layout.inj (Except.error.inj (h.symm.trans he))
    exact layoutError_of_view hv
  · exact (hne e (Except.error.inj (he.symm.trans h))).elim
  · exact nomatch h.symm.trans hr

theorem view_of_request {r : ServerRequest} (h : ServerRequest.ofMessage m = .ok r) : View.ofMessage m = .ok r.view := by
  rcases request_cases m with ⟨e, -, he⟩ | ⟨e, he, -⟩ | ⟨r', hv, hr⟩
  · exact nomatch h.symm.trans he
  · exact nomatch h.symm.trans he
  · obtain rfl := Except.ok.inj (h.symm.trans hr)
    exact hv

end outcomes

end Guarded
end HorizonIpc
