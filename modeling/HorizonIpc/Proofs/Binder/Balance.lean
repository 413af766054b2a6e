import HorizonIpc.Binder.Transact
import HorizonIpc.Proofs.Binder.Tally
/-!
# Proofs.Binder.Balance — a binder gives back what it acquires

Whatever is done with a binder and whatever answers it: at every point it holds at most one reference of each kind and
never a weak one without a strong one, and it closes a native handle only after it obtained it and only once.  Between
operations it holds one reference of each kind and one native handle if it is initialized, and nothing otherwise
(`balance`).  `Steady` is what holds after every event, and `Rests` what holds between operations.
-/
namespace HorizonIpc

namespace Tally

/-- What holds of the account after every event. -/
structure Steady (t : Tally) : Prop where
  weak_nonneg : 0 ≤ t.weak
  weak_le_strong : t.weak ≤ t.strong
  strong_le_one : t.strong ≤ 1
  discarded_prefix : t.discarded <+: t.obtained

end Tally

namespace Event

theorem asked?_of_layOut {c : Call} {m : Message} (ht : c.type ≠ .close) (h : c.layOut.on .zero = (.ok (), m)) :
    ∃ arguments, c.arguments <+: arguments ∧ ∀ command session buffers answer,
      (Event.sent session ⟨m, buffers⟩ answer).asked? command =
        if c.type = .request ∧ c.command = command then some arguments else none := by
  obtain ⟨r, hread, htype, hcommand, hargs, -⟩ := Call.layOut_spec ht h
  refine ⟨r.arguments, hargs, fun command session buffers answer => ?_⟩
  simp only [Event.asked?, hread]
  show (if r.commandType = some CommandType.request ∧ r.command = some command then some r.arguments else none) = _
  rw [htype, hcommand]
  simp only [Option.some.injEq]

/-- The reply that an event brought is the response of the call that it sent. -/
theorem reply?_eq {c : Call} (hsize : c.replySize = 0) (session : SessionHandle) (exchange : Exchange)
    (answer : Except SendError Answer) :
    (Event.sent session exchange answer).reply? = (c.outcome answer).1.toOption := by
  cases answer with
  | error e => rfl
  | ok answer =>
    show (Response.ofMessage answer.message 0).toOption =
      ((Response.ofMessage answer.message c.replySize).mapError CallError.reply).toOption
    rw [hsize]
    cases Response.ofMessage answer.message 0 <;> rfl

end Event

namespace Binder

open Client

/-- After each event the account of an object is steady. -/
def Sound (object : Int32) (past : List Event) : Prop := (Tally.of object past).Steady

variable {α : Type} {object : Int32} {past : List Event}

theorem sound_of_eq {t : Tally} (hT : Tally.of object past = t) (h : t.Steady) : Sound object past := by
  unfold Sound
  rw [hT]
  exact h

/-- **A call that neither changes a count nor asks for a native handle** leaves the account alone. -/
theorem ensures_neutral {c : Call} {session : SessionHandle}
    {Q : Except CallError Response × List Store → List Event → Prop} (ht : c.type ≠ .close)
    (hc : c.type = .request → c.command ≠ Relay.adjustCommand ∧ c.command ≠ Relay.nativeHandleCommand)
    (hI : Sound object past) (hQ : ∀ r past', Tally.of object past' = Tally.of object past → Q r past') :
    Ensures (Sound object) past (c.exchange session) Q := by
  obtain ⟨r, m, h⟩ : ∃ r m, c.layOut.on .zero = (r, m) := ⟨_, _, rfl⟩
  cases r with
  | error e =>
    rw [Call.exchange_of_error h]
    exact .done (hQ _ past rfl)
  | ok u =>
    obtain ⟨arguments, -, hasked⟩ := Event.asked?_of_layOut ht h
    rw [Call.exchange_of_layOut h]
    have hnone : ∀ command answer, (c.type = .request → c.command ≠ command) →
        (Event.sent session ⟨m, c.buffers⟩ answer).asked? command = none := fun command answer hne => by
      rw [hasked]
      exact if_neg fun hboth => hne hboth.1 hboth.2
    have hsame : ∀ answer, Tally.of object (past ++ [.sent session ⟨m, c.buffers⟩ answer]) = Tally.of object past :=
      fun answer => Tally.of_append_neutral (hnone _ answer fun h => (hc h).1) (hnone _ answer fun h => (hc h).2) rfl
    exact .send (fun answer => sound_of_eq (hsame answer) hI) fun answer => .done (hQ _ _ (hsame answer))

/-- **A call for a command of a service** whose reply need not carry data is one event, which asks for the command with
the call's arguments and brings its response. -/
theorem ensures_ask {I : List Event → Prop} {c : Call} {session : SessionHandle}
    {Q : Except CallError Response → List Event → Prop} (ht : c.type = .request) (hsize : c.replySize = 0)
    (hlay : ∃ m, c.layOut.on .zero = (.ok (), m))
    (h : ∀ e r arguments, c.arguments <+: arguments →
      (∀ command, e.asked? command = if c.command = command then some arguments else none) → e.closed? = none →
      e.reply? = r.toOption → I (past ++ [e]) ∧ Q r (past ++ [e])) :
    Ensures I past (c.ask session) Q := by
  obtain ⟨m, hm⟩ := hlay
  obtain ⟨arguments, hargs, hasked⟩ := Event.asked?_of_layOut (by rw [ht]; decide) hm
  refine ensures_map ?_
  rw [Call.exchange_of_layOut hm]
  have hspec := fun answer => h (.sent session ⟨m, c.buffers⟩ answer) (c.outcome answer).1 arguments hargs
    (fun command => by rw [hasked, ht]; simp only [true_and]) rfl (Event.reply?_eq hsize session _ answer)
  exact .send (fun answer => (hspec answer).1) fun answer => .done (hspec answer).2

def adjustCall (object amount : Int32) (kind : RefKind) : Call where
  command := Relay.adjustCommand
  arguments := Relay.signed object ++ Relay.signed amount ++ Relay.signed kind.code

def handleCall (object : Int32) (selector : UInt32) : Call where
  command := Relay.nativeHandleCommand
  arguments := Relay.signed object ++ Bytes.ofUInt32 selector

theorem adjustCommand_ne : ¬ Relay.adjustCommand = Relay.nativeHandleCommand := by decide

theorem nativeHandleCommand_ne : ¬ Relay.nativeHandleCommand = Relay.adjustCommand := by decide

theorem small_empty : Builder.empty.Small :=
  ⟨Nat.zero_le _, Nat.zero_le _, Nat.zero_le _, Nat.zero_le _, rfl, rfl, rfl⟩

/-- **An increase that succeeds** adds a reference, and one that fails changes nothing. -/
theorem ensures_increase {b : Binder} {kind : RefKind} {Q : Except CallError Unit → List Event → Prop}
    (hok : ∀ past', Tally.of b.object past' = (Tally.of b.object past).add 1 kind →
      Sound b.object past' ∧ Q (.ok ()) past')
    (herr : ∀ e past', Tally.of b.object past' = Tally.of b.object past → Sound b.object past' ∧ Q (.error e) past') :
    Ensures (Sound b.object) past (b.adjust 1 kind) Q := by
  have hlay := Call.layOut_of_small (c := adjustCall b.object 1 kind) rfl small_empty
    (show _ ≤ 48 by simp [adjustCall, Tally.length_signed])
  show Ensures (Sound b.object) past
    ((adjustCall b.object 1 kind).ask b.relay.session >>= fun r => pure (r.map fun _ => ())) Q
  refine ensures_bind (ensures_ask rfl rfl hlay fun e r arguments hargs hasked hclosed hreply => ?_)
  have hT := Tally.of_append_increase past ((hasked _).trans (if_pos rfl))
    ((hasked _).trans (if_neg adjustCommand_ne)) hclosed hargs
  rw [hreply] at hT
  cases r with
  | ok response => exact (hok _ hT).imp_right .done
  | error failure =>
    refine (herr failure _ (hT.trans ?_)).imp_right .done
    show (Tally.of b.object past).add 0 kind = _
    cases kind <;> simp [Tally.add]

/-- **A decrease** takes a reference away, whatever comes of it. -/
theorem ensures_decrease {b : Binder} {kind : RefKind} {Q : Except CallError Unit → List Event → Prop}
    (h : ∀ r past', Tally.of b.object past' = (Tally.of b.object past).add (-1) kind →
      Sound b.object past' ∧ Q r past') :
    Ensures (Sound b.object) past (b.adjust (-1) kind) Q := by
  have hlay := Call.layOut_of_small (c := adjustCall b.object (-1) kind) rfl small_empty
    (show _ ≤ 48 by simp [adjustCall, Tally.length_signed])
  show Ensures (Sound b.object) past
    ((adjustCall b.object (-1) kind).ask b.relay.session >>= fun r => pure (r.map fun _ => ())) Q
  refine ensures_bind (ensures_ask rfl rfl hlay fun e r arguments hargs hasked hclosed _ => ?_)
  exact (h _ _ (Tally.of_append_decrease ((hasked _).trans (if_pos rfl)) ((hasked _).trans (if_neg adjustCommand_ne))
    hclosed hargs)).imp_right .done

/-- **Asking for a native handle** adds it if one comes that is not zero, and changes nothing otherwise. -/
theorem ensures_fetchHandle {b : Binder} {selector : UInt32} {Q : Except InitError UInt32 → List Event → Prop}
    (hok : ∀ handle past', handle ≠ SessionHandle.invalid →
      Tally.of b.object past' = (Tally.of b.object past).obtain handle → Sound b.object past' ∧ Q (.ok handle) past')
    (herr : ∀ e past', Tally.of b.object past' = Tally.of b.object past → Sound b.object past' ∧ Q (.error e) past') :
    Ensures (Sound b.object) past (b.fetchHandle selector) Q := by
  have hlay := Call.layOut_of_small (c := handleCall b.object selector) rfl small_empty
    (show _ ≤ 48 by simp [handleCall, Tally.length_signed])
  refine ensures_bind (ensures_bind (ensures_ask (c := handleCall b.object selector) rfl rfl hlay
    fun e r arguments hargs hasked hclosed hreply => ?_))
  have hT := Tally.of_append_nativeHandle past ((hasked _).trans (if_neg nativeHandleCommand_ne))
    ((hasked _).trans (if_pos rfl)) hclosed ((List.prefix_append _ _).trans hargs)
  rw [hreply] at hT
  cases r with
  | error failure => exact (herr _ _ hT).imp_right fun h => .done (.done h)
  | ok response =>
    obtain ⟨data, copyHandles, moveHandles, sendStatics⟩ := response
    cases copyHandles with
    | nil => exact (herr _ _ (hT.trans (if_pos rfl))).imp_right fun h => .done (.done h)
    | cons handle rest =>
      have hT : Tally.of b.object (past ++ [e]) = (Tally.of b.object past).obtain handle := hT
      by_cases hz : handle = SessionHandle.invalid
      · have hsame : (Tally.of b.object past).obtain handle = Tally.of b.object past := if_pos hz
        refine (herr .invalidNativeHandle _ (hT.trans hsame)).imp_right fun h => .done (.done ?_)
        rw [if_pos hz]
        exact h
      · refine (hok handle _ hz hT).imp_right fun h => .done (.done ?_)
        rw [if_neg hz]
        exact h

theorem ensures_notice {b : Binder} {level : NoticeLevel} {text : String} {Q : Unit → List Event → Prop}
    (h : ∀ past', Tally.of object past' = Tally.of object past → Sound object past' ∧ Q () past') :
    Ensures (Sound object) past (b.notice level text) Q :=
  have hspec := h _ (Tally.of_append_noticed _)
  .note hspec.1 (.done hspec.2)

/-- **Closing a handle** is one attempt, whatever comes of it. -/
theorem ensures_closeHandle {handle : UInt32} {Q : Except CloseError Unit → List Event → Prop}
    (h : ∀ r past', Tally.of object past' = (Tally.of object past).discard handle → Sound object past' ∧ Q r past') :
    Ensures (Sound object) past (closeHandle handle) Q :=
  have hspec := fun outcome => h outcome _ (Tally.of_append_closed handle outcome)
  .close (fun outcome => (hspec outcome).1) fun outcome => .done (hspec outcome).2

/-- **Giving a reference back** takes it away, whatever comes of it. -/
theorem ensures_release {b : Binder} {kind : RefKind} {Q : Unit → List Event → Prop}
    (h : ∀ past', Tally.of b.object past' = (Tally.of b.object past).add (-1) kind →
      Sound b.object past' ∧ Q () past') :
    Ensures (Sound b.object) past (b.release kind) Q := by
  refine ensures_bind (ensures_decrease fun r past' hT => ⟨(h past' hT).1, ?_⟩)
  cases r with
  | ok _ => exact .done (h past' hT).2
  | error e => exact ensures_notice fun past'' hsame => h past'' (hsame.trans hT)

theorem ensures_discardHandle {b : Binder} {handle : UInt32} {Q : Unit → List Event → Prop}
    (h : ∀ past', Tally.of b.object past' = (Tally.of b.object past).discard handle →
      Sound b.object past' ∧ Q () past') :
    Ensures (Sound b.object) past (b.discardHandle handle) Q := by
  refine ensures_bind (ensures_closeHandle fun r past' hT => ⟨(h past' hT).1, ?_⟩)
  cases r with
  | ok _ => exact .done (h past' hT).2
  | error e => exact ensures_notice fun past'' hsame => h past'' (hsame.trans hT)

/-- Asking for the size of the pointer buffer is a request to the session itself. -/
theorem ensures_queryPointerBufferSize {session : SessionHandle} {Q : Except CallError UInt16 → List Event → Prop}
    (hI : Sound object past) (hQ : ∀ r past', Tally.of object past' = Tally.of object past → Q r past') :
    Ensures (Sound object) past (Service.queryPointerBufferSize session) Q :=
  ensures_bind (ensures_map (ensures_neutral (fun h => nomatch h) (fun h => nomatch h) hI
    fun _ past' hT => .done (hQ _ past' hT)))

/-! ## acquiring -/

/-- Nothing is held after the handles `l` were obtained and closed. -/
abbrev nothing (l : List UInt32) : Tally := ⟨0, 0, l, l⟩

theorem zero_le_one : (0 : Int) ≤ 1 := by decide

theorem steady_nothing (l : List UInt32) : (nothing l).Steady :=
  ⟨Int.le_refl _, Int.le_refl _, zero_le_one, List.prefix_refl _⟩

theorem steady_strong (l : List UInt32) : Tally.Steady ⟨1, 0, l, l⟩ :=
  ⟨Int.le_refl _, zero_le_one, Int.le_refl _, List.prefix_refl _⟩

theorem steady_both {obtained discarded : List UInt32} (h : discarded <+: obtained) :
    Tally.Steady ⟨1, 1, obtained, discarded⟩ :=
  ⟨zero_le_one, Int.le_refl _, Int.le_refl _, h⟩

theorem ensures_releaseReferences {b : Binder} {l : List UInt32} {Q : Unit → List Event → Prop}
    (hT : Tally.of b.object past = ⟨1, 1, l, l⟩)
    (h : ∀ past', Tally.of b.object past' = nothing l → Q () past') :
    Ensures (Sound b.object) past b.releaseReferences Q := by
  refine ensures_bind (ensures_release fun past₁ hT₁ => ?_)
  rw [hT] at hT₁
  refine ⟨sound_of_eq hT₁ (steady_strong l), ensures_release fun past₂ hT₂ => ?_⟩
  rw [hT₁] at hT₂
  exact ⟨sound_of_eq hT₂ (steady_nothing l), h past₂ hT₂⟩

/-- **Acquiring** ends with one reference of each kind and one native handle, or with nothing: then whatever was obtained
on the way is given back and closed. -/
theorem ensures_acquire {b : Binder} {selector : UInt32} {l : List UInt32}
    {Q : Except InitError (UInt32 × UInt16) → List Event → Prop} (hT : Tally.of b.object past = nothing l)
    (hok : ∀ handle size past', handle ≠ SessionHandle.invalid → Tally.of b.object past' = ⟨1, 1, l ++ [handle], l⟩ →
      Q (.ok (handle, size)) past')
    (herr : ∀ e l' past', Tally.of b.object past' = nothing l' → Q (.error e) past') :
    Ensures (Sound b.object) past (b.acquire selector) Q := by
  refine ensures_bind (ensures_increase (fun past₁ hT₁ => ?_) fun e past₁ hT₁ => ?_)
  case refine_2 =>
    rw [hT] at hT₁
    exact ⟨sound_of_eq hT₁ (steady_nothing l), .done (herr _ l past₁ hT₁)⟩
  rw [hT] at hT₁
  refine ⟨sound_of_eq hT₁ (steady_strong l), ?_⟩
  refine ensures_bind (ensures_increase (fun past₂ hT₂ => ?_) fun e past₂ hT₂ => ?_)
  case refine_2 =>
    rw [hT₁] at hT₂
    refine ⟨sound_of_eq hT₂ (steady_strong l), ensures_bind (ensures_release fun past₃ hT₃ => ?_)⟩
    rw [hT₂] at hT₃
    exact ⟨sound_of_eq hT₃ (steady_nothing l), .done (herr _ l past₃ hT₃)⟩
  rw [hT₁] at hT₂
  refine ⟨sound_of_eq hT₂ (steady_both (List.prefix_refl l)), ?_⟩
  refine ensures_bind (ensures_fetchHandle (fun handle past₃ hz hT₃ => ?_) fun e past₃ hT₃ => ?_)
  case refine_2 =>
    rw [hT₂] at hT₃
    refine ⟨sound_of_eq hT₃ (steady_both (List.prefix_refl l)), ensures_bind (ensures_releaseReferences hT₃ ?_)⟩
    exact fun past₄ hT₄ => .done (herr _ l past₄ hT₄)
  have hheld : Tally.of b.object past₃ = ⟨1, 1, l ++ [handle], l⟩ := by
    rw [hT₃, hT₂]
    exact if_neg hz
  have hsound := sound_of_eq hheld (steady_both (List.prefix_append l [handle]))
  refine ⟨hsound, ensures_bind (ensures_queryPointerBufferSize hsound fun r past₄ hT₄ => ?_)⟩
  rw [hheld] at hT₄
  cases r with
  | ok size => exact .done (hok handle size past₄ hz hT₄)
  | error e =>
    refine ensures_bind (ensures_discardHandle fun past₅ hT₅ => ?_)
    rw [hT₄] at hT₅
    refine ⟨sound_of_eq hT₅ (steady_both (List.prefix_refl _)), ensures_bind (ensures_releaseReferences hT₅ ?_)⟩
    exact fun past₆ hT₆ => .done (herr _ _ past₆ hT₆)

/-! ## operations -/

/-- What can be done with a binder. -/
inductive Operation where
  | init (selector : UInt32) (config : BinderConfig)
  | transact (staging : Staging) (code flags : UInt32) (request reply : Parcel)
  | exit

def operate (b : Binder) : Operation → Client Binder
  | .init selector config => Prod.snd <$> b.init selector config
  | .transact staging code flags request reply => (fun _ => b) <$> b.transact staging code flags request reply
  | .exit => Prod.snd <$> b.exit

def operateAll (b : Binder) : List Operation → Client Binder
  | [] => return b
  | o :: rest => do
    let b ← b.operate o
    b.operateAll rest

/-- **What holds between operations**: an initialized binder holds one reference of each kind and the native handle that
it obtained last, and any other holds nothing. -/
inductive Rests (object : Int32) (b : Binder) (t : Tally) : Prop
  | holding (handle : UInt32) (l : List UInt32) (hs : b.state = .initialized) (hh : b.nativeHandle = some handle)
      (hz : handle ≠ SessionHandle.invalid) (ht : t = ⟨1, 1, l ++ [handle], l⟩) (ho : b.object = object)
  | idle (l : List UInt32) (hs : b.state = .created ∨ b.state = .closed) (hh : b.nativeHandle = none)
      (ht : t = nothing l) (ho : b.object = object)

theorem Rests.steady {b : Binder} {t : Tally} (h : Rests object b t) : t.Steady := by
  cases h with
  | holding handle l _ _ _ ht _ =>
    rw [ht]
    exact steady_both (List.prefix_append _ _)
  | idle l _ _ ht _ =>
    rw [ht]
    exact steady_nothing l

theorem Rests.balanced {b : Binder} {events : List Event} (h : Rests object b (Tally.of object events)) :
    (∀ kind, Event.held object kind events = if b.state = .initialized then 1 else 0) ∧
      Event.obtained object events = Event.discarded events ++ b.nativeHandle.toList ∧
      (b.state = .initialized ↔ ∃ handle, b.nativeHandle = some handle) ∧
      b.nativeHandle ≠ some SessionHandle.invalid := by
  cases h with
  | holding handle l hs hh hz ht ho =>
    have hobtained : Event.obtained object events = l ++ [handle] := congrArg Tally.obtained ht
    have hdiscarded : Event.discarded events = l := congrArg Tally.discarded ht
    rw [hobtained, hdiscarded, hs, hh]
    refine ⟨fun kind => ?_, rfl, ⟨fun _ => ⟨handle, rfl⟩, fun _ => rfl⟩, fun heq => hz (Option.some.inj heq)⟩
    rw [if_pos rfl]
    cases kind with
    | weak => exact congrArg Tally.weak ht
    | strong => exact congrArg Tally.strong ht
  | idle l hs hh ht ho =>
    have hobtained : Event.obtained object events = l := congrArg Tally.obtained ht
    have hdiscarded : Event.discarded events = l := congrArg Tally.discarded ht
    have hne : b.state ≠ .initialized := by rcases hs with hs | hs <;> rw [hs] <;> decide
    rw [hobtained, hdiscarded, hh]
    refine ⟨fun kind => ?_, (List.append_nil l).symm, ⟨fun hi => absurd hi hne, fun ⟨_, h⟩ => nomatch h⟩, nofun⟩
    rw [if_neg hne]
    cases kind with
    | weak => exact congrArg Tally.weak ht
    | strong => exact congrArg Tally.strong ht

theorem ensures_init {b : Binder} {selector : UInt32} {config : BinderConfig}
    (h : Rests object b (Tally.of object past)) :
    Ensures (Sound object) past (b.init selector config) fun r past => Rests object r.2 (Tally.of object past) := by
  unfold init
  cases hs : b.state with
  | closed => exact .done h
  | initialized => exact .done h
  | initializing => exact .done h
  | created =>
    cases h with
    | holding _ _ hs' => rw [hs] at hs'; cases hs'
    | idle l _ hh ht ho =>
      subst ho
      refine ensures_bind (ensures_acquire ht (fun handle size past' hz hT => ?_) fun e l' past' hT => ?_)
      · refine ensures_bind (ensures_notice fun past'' hsame => ?_)
        have hT'' := hsame.trans hT
        exact ⟨sound_of_eq hT'' (steady_both (List.prefix_append _ _)),
          .done (.holding handle l rfl rfl hz hT'' rfl)⟩
      · refine ensures_bind (ensures_notice fun past'' hsame => ?_)
        have hT'' := hsame.trans hT
        exact ⟨sound_of_eq hT'' (steady_nothing _), .done (.idle l' (.inl rfl) hh hT'' rfl)⟩

theorem ensures_exit {b : Binder} (h : Rests object b (Tally.of object past)) :
    Ensures (Sound object) past b.exit fun r past => Rests object r.2 (Tally.of object past) := by
  unfold exit
  cases h with
  | idle l hs hh ht ho =>
    have hne : b.state ≠ .initialized := by rcases hs with hs | hs <;> rw [hs] <;> decide
    rw [if_pos hne]
    exact .done (.idle l hs hh ht ho)
  | holding handle l hs hh hz ht ho =>
    subst ho
    rw [if_neg (not_not_intro hs), hh]
    refine ensures_bind (ensures_decrease fun weak past₁ hT₁ => ?_)
    rw [ht] at hT₁
    have hpre : l <+: l ++ [handle] := List.prefix_append _ _
    refine ⟨sound_of_eq hT₁ ⟨Int.le_refl _, zero_le_one, Int.le_refl _, hpre⟩, ?_⟩
    refine ensures_bind (ensures_decrease fun strong past₂ hT₂ => ?_)
    rw [hT₁] at hT₂
    refine ⟨sound_of_eq hT₂ ⟨Int.le_refl _, Int.le_refl _, zero_le_one, hpre⟩, ?_⟩
    refine ensures_bind (ensures_closeHandle fun closed past₃ hT₃ => ?_)
    rw [hT₂] at hT₃
    have hT₃ : Tally.of b.object past₃ = nothing (l ++ [handle]) := hT₃
    refine ⟨sound_of_eq hT₃ (steady_nothing _), ?_⟩
    refine ensures_bind (ensures_notice fun past₄ hsame => ?_)
    have hT₄ := hsame.trans hT₃
    exact ⟨sound_of_eq hT₄ (steady_nothing _), .done (.idle _ (.inr rfl) rfl hT₄ rfl)⟩

theorem transactCommand_ne :
    Relay.transactCommand ≠ Relay.adjustCommand ∧ Relay.transactCommand ≠ Relay.nativeHandleCommand := by decide

theorem transactAutoCommand_ne :
    Relay.transactAutoCommand ≠ Relay.adjustCommand ∧ Relay.transactAutoCommand ≠ Relay.nativeHandleCommand := by decide

theorem ensures_dispatch {b : Binder} {code flags : UInt32} {request reply : Buffer}
    {Q : Except CallError Nat × Buffer → List Event → Prop} (hI : Sound object past)
    (hQ : ∀ r past', Tally.of object past' = Tally.of object past → Q r past') :
    Ensures (Sound object) past (b.dispatch code flags request reply) Q := by
  unfold dispatch
  cases b.mode with
  | legacy =>
    exact ensures_bind (ensures_neutral (fun h => nomatch h) (fun _ => transactCommand_ne) hI
      fun _ _ hT => .done (hQ _ _ hT))
  | combined =>
    exact ensures_bind (ensures_neutral (fun h => nomatch h) (fun _ => transactAutoCommand_ne) hI
      fun _ _ hT => .done (hQ _ _ hT))

/-- **A transaction** leaves the account alone. -/
theorem ensures_transact {b : Binder} {staging : Staging} {code flags : UInt32} {request reply : Parcel}
    (hI : Sound object past) :
    Ensures (Sound object) past (b.transact staging code flags request reply)
      fun _ past' => Tally.of object past' = Tally.of object past := by
  unfold transact
  by_cases hs : b.state ≠ .initialized
  · rw [if_pos hs]
    exact .done rfl
  rw [if_neg hs]
  rcases request.serialize.on (List.replicate Parcel.stagingSize 0) with ⟨_ | used, staged⟩
  · exact .done rfl
  refine ensures_bind (ensures_dispatch hI fun (r, filled) past₁ hT₁ => ?_)
  cases r with
  | error e => exact .done hT₁
  | ok received =>
    dsimp only
    rcases (Parcel.deserialize (filled.bytes.take received)).on reply with ⟨e | _, p⟩
    · refine ensures_bind (ensures_notice fun past₂ hT₂ => ?_)
      exact ⟨sound_of_eq (hT₂.trans hT₁) hI, .done (hT₂.trans hT₁)⟩
    · exact .done hT₁

/-- **Every operation** keeps what holds between operations. -/
theorem ensures_operate {b : Binder} (h : Rests object b (Tally.of object past)) :
    ∀ o : Operation, Ensures (Sound object) past (b.operate o) fun b past => Rests object b (Tally.of object past)
  | .init _ _ => ensures_map (ensures_init h)
  | .transact _ _ _ _ _ => ensures_map ((ensures_transact h.steady).imp fun _ past' hT => by rw [hT]; exact h)
  | .exit => ensures_map (ensures_exit h)

/-- **And so does every run of operations.** -/
theorem ensures_operateAll : ∀ (operations : List Operation) {b : Binder} {past : List Event},
    Rests object b (Tally.of object past) →
      Ensures (Sound object) past (b.operateAll operations) fun b past => Rests object b (Tally.of object past)
  | [], _, _, h => .done h
  | o :: rest, _, _, h =>
    ensures_bind ((ensures_operate h o).imp fun _ _ h' => ensures_operateAll rest h')

/-- **A binder's balance**, whatever is done with it and whatever answers.  At every point of a run it holds no more than
one reference of each kind and no weak one without a strong one, and the handles closed so far are the first of the
native handles obtained, none of which is zero.  When the run is over, an initialized binder holds one reference of each
kind and all handles but the one that it keeps are closed; any other binder holds nothing and all are closed. -/
theorem balance {σ : Type} (t : Transport σ) (s : σ) (relay : Service) (object : Int32) (operations : List Operation) :
    let run := ((create relay object).operateAll operations).run t s
    let b := run.value
    (∀ seen, seen <+: run.events →
      0 ≤ Event.held object .weak seen ∧ Event.held object .weak seen ≤ Event.held object .strong seen ∧
        Event.held object .strong seen ≤ 1 ∧ Event.discarded seen <+: Event.obtained object seen ∧
        SessionHandle.invalid ∉ Event.discarded seen) ∧
    (∀ kind, Event.held object kind run.events = if b.state = .initialized then 1 else 0) ∧
    Event.obtained object run.events = Event.discarded run.events ++ b.nativeHandle.toList ∧
    (b.state = .initialized ↔ ∃ handle, b.nativeHandle = some handle) ∧
    b.nativeHandle ≠ some SessionHandle.invalid := by
  intro run b
  have hstart : Rests object (create relay object) (Tally.of object []) := .idle [] (.inl rfl) rfl rfl rfl
  obtain ⟨hseen, hend⟩ := run_of_ensures t hstart.steady (ensures_operateAll operations hstart) s
  refine ⟨fun seen hpre => ?_, ?_⟩
  · obtain ⟨hweak, hstrong, hone, hfirst⟩ := hseen seen hpre
    refine ⟨hweak, hstrong, hone, hfirst, fun hmem => Event.invalid_not_mem_obtained (hfirst.subset hmem)⟩
  · exact Rests.balanced hend

end Binder
end HorizonIpc
