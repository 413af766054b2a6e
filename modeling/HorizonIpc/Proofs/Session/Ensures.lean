import HorizonIpc.Session.Transport
/-!
# Proofs.Session.Ensures — what a client does whatever answers it

`Ensures I past x Q` says of a client `x` that starts behind the events `past`: whatever is answered to it, `I` holds of
all events so far after each of them, and `Q` holds of the result and all events in the end.  It is shown along the
client's steps (`ensures_bind`), and it holds of the runs on every transport (`run_of_ensures`).
-/
namespace HorizonIpc
namespace Client

variable {σ α β : Type}

/-- **What a client ensures** whatever answers it: `I` after each event, and `Q` in the end. -/
inductive Ensures (I : List Event → Prop) : List Event → Client α → (α → List Event → Prop) → Prop
  | done {past : List Event} {a : α} {Q : α → List Event → Prop} (h : Q a past) : Ensures I past (.done a) Q
  | send {past : List Event} {session : SessionHandle} {exchange : Exchange}
      {next : Except SendError Answer → Client α} {Q : α → List Event → Prop}
      (h : ∀ answer, I (past ++ [.sent session exchange answer]))
      (rest : ∀ answer, Ensures I (past ++ [.sent session exchange answer]) (next answer) Q) :
      Ensures I past (.send session exchange next) Q
  | close {past : List Event} {handle : UInt32} {next : Except CloseError Unit → Client α}
      {Q : α → List Event → Prop} (h : ∀ outcome, I (past ++ [.closed handle outcome]))
      (rest : ∀ outcome, Ensures I (past ++ [.closed handle outcome]) (next outcome) Q) :
      Ensures I past (.close handle next) Q
  | note {past : List Event} {notice : Notice} {next : Client α} {Q : α → List Event → Prop}
      (h : I (past ++ [.noticed notice])) (rest : Ensures I (past ++ [.noticed notice]) next Q) :
      Ensures I past (.note notice next) Q

variable {I : List Event → Prop} {past : List Event}

/-- **One client after the other**: the second starts behind the events of the first. -/
theorem ensures_bind {x : Client α} {f : α → Client β} {Q : β → List Event → Prop}
    (h : Ensures I past x fun a past => Ensures I past (f a) Q) : Ensures I past (x >>= f) Q := by
  generalize hR : (fun a past => Ensures I past (f a) Q) = R at h
  induction h with
  | done h =>
    subst hR
    exact h
  | send h _ ih => exact .send h fun answer => ih answer hR
  | close h _ ih => exact .close h fun outcome => ih outcome hR
  | note h _ ih => exact .note h (ih hR)

theorem ensures_map {x : Client α} {f : α → β} {Q : β → List Event → Prop}
    (h : Ensures I past x fun a past => Q (f a) past) : Ensures I past (f <$> x) Q := by
  generalize hR : (fun a past => Q (f a) past) = R at h
  induction h with
  | done h =>
    subst hR
    exact .done h
  | send h _ ih => exact .send h fun answer => ih answer hR
  | close h _ ih => exact .close h fun outcome => ih outcome hR
  | note h _ ih => exact .note h (ih hR)

/-- What is ensured in the end may be weakened. -/
theorem Ensures.imp {x : Client α} {Q R : α → List Event → Prop} (h : Ensures I past x Q)
    (hQ : ∀ a past, Q a past → R a past) : Ensures I past x R := by
  induction h with
  | done h => exact .done (hQ _ _ h)
  | send h _ ih => exact .send h fun answer => ih answer hQ
  | close h _ ih => exact .close h fun outcome => ih outcome hQ
  | note h _ ih => exact .note h (ih hQ)

/-- **Any client** only adds to the events behind which it starts. -/
theorem ensures_extends (x : Client α) : ∀ past : List Event,
    Ensures (fun _ => True) past x fun _ events => past <+: events := by
  have hstep : ∀ {past events : List Event} {e : Event}, past ++ [e] <+: events → past <+: events :=
    fun h => (List.prefix_append _ _).trans h
  induction x with
  | done a => exact fun past => .done (List.prefix_refl past)
  | send _ _ _ ih => exact fun past => .send (fun _ => trivial) fun answer => (ih answer _).imp fun _ _ => hstep
  | close _ _ ih => exact fun past => .close (fun _ => trivial) fun outcome => (ih outcome _).imp fun _ _ => hstep
  | note _ _ ih => exact fun past => .note trivial ((ih _).imp fun _ _ => hstep)

theorem prefix_cons {events : List Event} {e : Event} (hI : I past)
    (h : ∀ seen, seen <+: events → I (past ++ [e] ++ seen)) : ∀ seen, seen <+: e :: events → I (past ++ seen)
  | [], _ => by rw [List.append_nil]; exact hI
  | _ :: seen, hseen => by
    obtain ⟨rfl, hrest⟩ := List.cons_prefix_cons.1 hseen
    have := h seen hrest
    rwa [List.append_assoc] at this

/-- **What a client ensures holds of its runs** on every transport: of the events up to each point of the run, and of the
result and all events in the end. -/
theorem run_of_ensures (t : Transport σ) {x : Client α} {Q : α → List Event → Prop} (hI : I past)
    (h : Ensures I past x Q) : ∀ s : σ,
      (∀ seen, seen <+: (x.run t s).events → I (past ++ seen)) ∧ Q (x.run t s).value (past ++ (x.run t s).events) := by
  induction h with
  | @done past a Q h =>
    refine fun s => ⟨fun seen hseen => ?_, ?_⟩
    · rw [List.prefix_nil.1 hseen, List.append_nil]
      exact hI
    · show Q a (past ++ [])
      rw [List.append_nil]
      exact h
  | @send past session exchange next Q h _ ih =>
    intro s
    obtain ⟨hseen, hend⟩ := ih (t.send session exchange s).1 (h _) (t.send session exchange s).2
    rw [List.append_assoc] at hend
    exact ⟨prefix_cons hI hseen, hend⟩
  | @close past handle next Q h _ ih =>
    intro s
    obtain ⟨hseen, hend⟩ := ih (t.close handle s).1 (h _) (t.close handle s).2
    rw [List.append_assoc] at hend
    exact ⟨prefix_cons hI hseen, hend⟩
  | note h _ ih =>
    intro s
    obtain ⟨hseen, hend⟩ := ih h s
    rw [List.append_assoc] at hend
    exact ⟨prefix_cons hI hseen, hend⟩

end Client
end HorizonIpc
