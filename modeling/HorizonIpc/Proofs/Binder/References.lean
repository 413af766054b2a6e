import HorizonIpc.Proofs.Binder.Counting
/-!
# Proofs.Binder.References — the counts at the relay are those of the binders

Any number of binders use one relay that counts references.  Whatever happens there, each operation on a binder changes
the counts by as much as it changes what the binder holds (`leads_operate`), so after any calls in any order the strong
and the weak count of an object are the number of its initialized binders (`counts_agree`).
-/
namespace HorizonIpc

namespace Counts

variable {c : Counts} {object : Int32} {kind : RefKind}

theorem add_add_neg (n : Int) : (c.add object kind n).add object kind (-n) = c := by
  funext o k
  unfold add
  split <;> omega

theorem add_both {kind' : RefKind} (hne : kind ≠ kind') (n : Int) (o : Int32) (k : RefKind) :
    ((c.add object kind n).add object kind' n) o k = c o k + if o = object then n else 0 := by
  unfold add
  by_cases ho : o = object
  · cases kind <;> cases kind' <;> cases k <;> simp_all
  · simp [ho]

end Counts

namespace Binder

open Client

def holds (object : Int32) (b : Binder) : Bool := decide (b.object = object ∧ b.state = .initialized)

/-- How much more the relay counts than some binders hold.  It is what every operation keeps, from zero on. -/
def excess (bs : List Binder) (c : Counts) : Counts := fun object kind => c object kind - bs.countP (holds object)

theorem excess_cons (b : Binder) (bs : List Binder) (c : Counts) :
    excess (b :: bs) c = excess [b] (excess bs c) := by
  funext object kind
  unfold excess
  rw [List.countP_cons, List.countP_singleton]
  split <;> omega

theorem excess_comm (bs bs' : List Binder) (c : Counts) : excess bs (excess bs' c) = excess bs' (excess bs c) := by
  funext object kind
  unfold excess
  omega

variable {σ : Type} {server : CountingServer σ} {c : Counts} {b : Binder}

/-! ## what each step of a binder leads to -/

theorem leads_notice {level : NoticeLevel} {text : String} {Q : Unit → Counts → Prop} (h : Q () c) :
    Leads server c (b.notice level text) Q := fun _ => h

theorem leads_increase {kind : RefKind} {Q : Except CallError Unit → Counts → Prop}
    (hok : Q (.ok ()) (c.add b.object kind 1)) (herr : ∀ e, Q (.error e) c) :
    Leads server c (b.adjust 1 kind) Q := leads_adjust hok fun _ => herr

theorem leads_decrease {kind : RefKind} {Q : Except CallError Unit → Counts → Prop}
    (h : Q (.ok ()) (c.add b.object kind (-1))) : Leads server c (b.adjust (-1) kind) Q :=
  leads_adjust h fun hno => absurd (by decide) hno

theorem leads_release {kind : RefKind} {Q : Unit → Counts → Prop} (h : Q () (c.add b.object kind (-1))) :
    Leads server c (b.release kind) Q := .bind (leads_decrease (.done h))

/-- **Giving both references back** undoes acquiring them. -/
theorem leads_releaseReferences {Q : Unit → Counts → Prop} (h : Q () c) :
    Leads server ((c.add b.object .strong 1).add b.object .weak 1) b.releaseReferences Q := by
  refine .bind (leads_release ?_)
  rw [Counts.add_add_neg]
  refine leads_release ?_
  rw [Counts.add_add_neg]
  exact h

theorem leads_discardHandle {handle : UInt32} {Q : Unit → Counts → Prop} (h : Q () c) :
    Leads server c (b.discardHandle handle) Q := by
  refine .bind (leads_closeHandle fun r => ?_)
  cases r with
  | ok u => exact .done h
  | error e => exact leads_notice h

theorem leads_fetchHandle {selector : UInt32} {Q : Except InitError UInt32 → Counts → Prop} (h : ∀ r, Q r c) :
    Leads server c (b.fetchHandle selector) Q := by
  refine .bind (.bind (.map (leads_neutral (fun h => nomatch h) (fun _ => nativeHandleCommand_ne) fun (r, stores) => ?_)))
  dsimp only
  rcases r with e | ⟨data, _ | ⟨handle, handles⟩, moves, statics⟩ <;> exact .done (.done (h _))

theorem leads_queryPointerBufferSize {session : SessionHandle} {Q : Except CallError UInt16 → Counts → Prop}
    (h : ∀ r, Q r c) : Leads server c (Service.queryPointerBufferSize session) Q :=
  .bind (.map (leads_neutral (fun h => nomatch h) (fun h => nomatch h) fun _ => .done (h _)))

/-- **Acquiring** adds a reference of each kind, or nothing: what was added is taken away again. -/
theorem leads_acquire {selector : UInt32} {Q : Except InitError (UInt32 × UInt16) → Counts → Prop}
    (hok : ∀ r, Q (.ok r) ((c.add b.object .strong 1).add b.object .weak 1)) (herr : ∀ e, Q (.error e) c) :
    Leads server c (b.acquire selector) Q := by
  -- each failure gives back what was acquired before it, so the counts are `c` again at every error
  refine .bind (leads_increase ?_ fun e => .done (herr _))
  refine .bind (leads_increase ?_ fun e => .bind (leads_release ?_))
  case refine_2 =>
    rw [Counts.add_add_neg]
    exact .done (herr _)
  refine .bind (leads_fetchHandle fun r => ?_)
  cases r with
  | error e => exact .bind (leads_releaseReferences (.done (herr _)))
  | ok handle =>
    refine .bind (leads_queryPointerBufferSize fun r => ?_)
    cases r with
    | ok size => exact .done (hok _)
    | error e => exact .bind (leads_discardHandle (.bind (leads_releaseReferences (.done (herr _)))))

/-! ## operations -/

def Keeps (b : Binder) (c : Counts) (b' : Binder) (c' : Counts) : Prop :=
  b'.object = b.object ∧ excess [b'] c' = excess [b] c

theorem excess_idle (hb : b.state ≠ .initialized) : excess [b] c = c := by
  funext object kind
  unfold excess holds
  rw [List.countP_singleton]
  simp [hb]

theorem excess_initialized (hb : b.state = .initialized) (object : Int32) (kind : RefKind) :
    excess [b] c object kind = c object kind - if object = b.object then 1 else 0 := by
  unfold excess holds
  rw [List.countP_singleton]
  by_cases ho : object = b.object
  · simp [hb, ho]
  · simp [hb, ho, Ne.symm ho]

theorem leads_init (b : Binder) (selector : UInt32) (config : BinderConfig) :
    Leads server c (b.init selector config) fun r c' => b.Keeps c r.2 c' := by
  unfold init
  cases hs : b.state with
  | closed => exact .done ⟨rfl, rfl⟩
  | initialized => exact .done ⟨rfl, rfl⟩
  | initializing => exact .done ⟨rfl, rfl⟩
  | created =>
    have hidle : excess [b] c = c := excess_idle (by rw [hs]; decide)
    refine .bind (leads_acquire (fun (handle, size) => ?_) fun e => ?_)
    · refine .bind (leads_notice (.done ⟨rfl, ?_⟩))
      funext object kind
      rw [hidle, excess_initialized rfl, Counts.add_both (by decide)]
      exact Int.add_sub_cancel _ _
    · refine .bind (leads_notice (.done ⟨rfl, ?_⟩))
      rw [hidle]
      exact excess_idle (show BinderState.created ≠ .initialized by decide)

theorem leads_exit (b : Binder) : Leads server c b.exit fun r c' => b.Keeps c r.2 c' := by
  unfold exit
  by_cases hs : b.state = .initialized
  · have hkeeps : b.Keeps c { b with state := .closed, nativeHandle := none }
        ((c.add b.object .weak (-1)).add b.object .strong (-1)) := by
      refine ⟨rfl, ?_⟩
      funext object kind
      rw [excess_idle (show BinderState.closed ≠ .initialized by decide), excess_initialized hs, Counts.add_both (by decide)]
      split <;> omega
    rw [if_neg (not_not_intro hs)]
    -- a decrease is counted whatever comes back, so both references are gone before the handle is closed
    refine .bind (leads_decrease (.bind (leads_decrease ?_)))
    cases b.nativeHandle with
    | none => exact .bind (.done (.bind (leads_notice (.done hkeeps))))
    | some handle => exact .bind (leads_closeHandle fun _ => .bind (leads_notice (.done hkeeps)))
  · rw [if_pos hs]
    exact .done ⟨rfl, rfl⟩

theorem leads_dispatch {code flags : UInt32} {request reply : Buffer} {Q : Except CallError Nat × Buffer → Counts → Prop}
    (h : ∀ r, Q r c) : Leads server c (b.dispatch code flags request reply) Q := by
  unfold dispatch
  cases b.mode with
  | legacy => exact .bind (leads_neutral (fun h => nomatch h) (fun _ => transactCommand_ne.1) fun _ => .done (h _))
  | combined => exact .bind (leads_neutral (fun h => nomatch h) (fun _ => transactAutoCommand_ne.1) fun _ => .done (h _))

theorem leads_transact {staging : Staging} {code flags : UInt32} {request reply : Parcel}
    {Q : Except TransactError Unit × Parcel → Counts → Prop} (h : ∀ r, Q r c) :
    Leads server c (b.transact staging code flags request reply) Q := by
  unfold transact
  by_cases hs : b.state ≠ .initialized
  · rw [if_pos hs]
    exact .done (h _)
  rw [if_neg hs]
  rcases request.serialize.on (List.replicate Parcel.stagingSize 0) with ⟨_ | used, staged⟩
  · exact .done (h _)
  refine .bind (leads_dispatch fun (r, filled) => ?_)
  cases r with
  | error e => exact .done (h _)
  | ok received =>
    dsimp only
    rcases (Parcel.deserialize (filled.bytes.take received)).on reply with ⟨e | _, p⟩
    · exact .bind (leads_notice (.done (h _)))
    · exact .done (h _)

/-- **Every operation** changes the counts by as much as it changes what the binder holds. -/
theorem leads_operate (b : Binder) : ∀ o : Operation, Leads server c (b.operate o) fun b' c' => b.Keeps c b' c'
  | .init selector config => .map (leads_init b selector config)
  | .transact _ _ _ _ _ => .map (leads_transact fun _ => ⟨rfl, rfl⟩)
  | .exit => .map (leads_exit b)

/-! ## many binders -/

/-- An operation on the binder at a place; where there is none, nothing happens. -/
def operateAt : List Binder → Nat → Operation → Client (List Binder)
  | [], _, _ => return []
  | b :: bs, 0, o => do
    let b ← b.operate o
    return b :: bs
  | b :: bs, n + 1, o => do
    let bs ← operateAt bs n o
    return b :: bs

def operateEach (bs : List Binder) : List (Nat × Operation) → Client (List Binder)
  | [] => return bs
  | (n, o) :: rest => do
    let bs ← operateAt bs n o
    operateEach bs rest

/-- **An operation on one of many binders**: the relay counts as much more than the binders hold as before. -/
theorem leads_operateAt (o : Operation) : ∀ (bs : List Binder) (n : Nat) (c : Counts),
    Leads server c (operateAt bs n o) fun bs' c' =>
      bs'.map Binder.object = bs.map Binder.object ∧ excess bs' c' = excess bs c
  | [], _, _ => .done ⟨rfl, rfl⟩
  -- the other binders are a frame: `excess` may be taken over them first
  | b :: bs, 0, _ =>
    .bind ((leads_operate b o).imp fun b' c' ⟨hobject, hexcess⟩ => .done
      ⟨by rw [List.map_cons, List.map_cons, hobject],
        by rw [excess_cons b', excess_cons b, excess_comm, hexcess, excess_comm]⟩)
  | b :: bs, n + 1, c =>
    .bind ((leads_operateAt o bs n c).imp fun bs' c' ⟨hobjects, hexcess⟩ => .done
      ⟨by rw [List.map_cons, List.map_cons, hobjects], by rw [excess_cons b bs', excess_cons b bs, hexcess]⟩)

/-- **And so do any operations on them**, in any order. -/
theorem leads_operateEach : ∀ (calls : List (Nat × Operation)) (bs : List Binder) (c : Counts),
    Leads server c (operateEach bs calls) fun bs' c' =>
      bs'.map Binder.object = bs.map Binder.object ∧ excess bs' c' = excess bs c
  | [], _, _ => .done ⟨rfl, rfl⟩
  | (n, o) :: rest, bs, c =>
    .bind ((leads_operateAt o bs n c).imp fun bs₁ c₁ ⟨hobjects, hexcess⟩ =>
      (leads_operateEach rest bs₁ c₁).imp fun _ _ ⟨hobjects', hexcess'⟩ =>
        ⟨hobjects'.trans hobjects, hexcess'.trans hexcess⟩)

/-- **The relay counts what the binders hold.**  Binders of any objects share a relay session, and are initialized, used
and closed in any order; increases may be lost or refused, and everything but the changes of counts may be answered in
any way.  Starting from counts of zero, the strong and the weak count of every object are then the number of its binders
that are initialized. -/
theorem counts_agree {σ : Type} (server : CountingServer σ) (rest : σ) (relay : Service) (objects : List Int32)
    (calls : List (Nat × Operation)) :
    let run := (operateEach (objects.map (create relay)) calls).run server.transport ⟨fun _ _ => 0, rest⟩
    run.value.map Binder.object = objects ∧
      ∀ object kind, run.state.counts object kind =
        run.value.countP fun b => decide (b.object = object ∧ b.state = .initialized) := by
  intro run
  have hstart : Leads server _ _ _ := leads_operateEach calls (objects.map (create relay)) fun _ _ => 0
  obtain ⟨hobjects, hexcess⟩ := hstart rest
  constructor
  · rw [hobjects, List.map_map]
    exact List.map_id objects
  · intro object kind
    -- fresh binders hold nothing, so the excess was zero
    have hnone : (objects.map (create relay)).countP (holds object) = 0 := by
      rw [List.countP_eq_zero]
      intro b hb
      obtain ⟨o, -, rfl⟩ := List.mem_map.1 hb
      unfold holds create
      simp
    have hsame : run.state.counts object kind - run.value.countP (holds object) =
        0 - ((objects.map (create relay)).countP (holds object) : Nat) := congrFun (congrFun hexcess object) kind
    rw [hnone] at hsame
    show run.state.counts object kind = run.value.countP (holds object)
    omega

/-- Two binders of one object and one of another; the third increase is lost, so the second binder needs two attempts. -/
example :
    let server : CountingServer Nat := {
      hinder := fun _ _ n => (if n = 2 then some (.lost .sessionClosed) else none, n + 1)
      others := {
        send := fun _ e n => (.ok ⟨((Reply.write { copyHandles := [9], data := [0, 4] }).on e.message).2, []⟩, n)
        close := fun _ n => (.ok (), n) } }
    let calls : List (Nat × Operation) :=
      [(0, .init 0 {}), (1, .init 0 {}), (1, .init 0 {}), (2, .init 0 {}), (0, .exit), (0, .init 0 {})]
    let run := (operateEach ([-3, -3, 5].map (create ⟨⟨1⟩, 0⟩)) calls).run server.transport ⟨fun _ _ => 0, 0⟩
    run.value.map Binder.state = [.closed, .initialized, .initialized] ∧
      ([-3, 5].map fun o => (run.state.counts o .strong, run.state.counts o .weak)) = [(1, 1), (1, 1)] := by
  decide +kernel

end Binder
end HorizonIpc
