import HorizonIpc.Command.Builder
/-!
# Proofs.Command.Additions — what additions leave in a builder

An addition is refused exactly where a category that it names is full or a static is to carry too large a buffer; then
it changes nothing, and otherwise its items stand behind those collected so far (`add_goes`).  So after any run of
additions, some of which may have failed, the builder holds the items of those that succeeded, category by category and
in their order (`addAll_spec`).
-/
namespace HorizonIpc
namespace Builder

/-- The items of two builders, the second's behind the first's in every category. -/
def plus (a b : Builder) : Builder where
  sendStatics := a.sendStatics ++ b.sendStatics
  sendBuffers := a.sendBuffers ++ b.sendBuffers
  recvBuffers := a.recvBuffers ++ b.recvBuffers
  recvStatics := a.recvStatics ++ b.recvStatics
  copyHandles := a.copyHandles ++ b.copyHandles
  moveHandles := a.moveHandles ++ b.moveHandles
  sendPid := a.sendPid || b.sendPid

theorem plus_empty (a : Builder) : a.plus empty = a := by
  unfold plus empty
  simp only [List.append_nil, Bool.or_false]

theorem empty_plus (a : Builder) : empty.plus a = a := rfl

theorem plus_assoc (a b c : Builder) : (a.plus b).plus c = a.plus (b.plus c) := by
  unfold plus
  simp only [List.append_assoc, Bool.or_assoc]

namespace Addition

/-- What an addition contributes.  A buffer that may travel either way contributes one item for each way, and the one
for the way not taken names no memory. -/
def items : Addition → Builder
  | sendBuffer m => { sendBuffers := [m] }
  | recvBuffer m => { recvBuffers := [m] }
  | sendStatic r => { sendStatics := [r] }
  | recvStatic r => { recvStatics := [r] }
  | inAuto .static m => { sendStatics := [m.region], sendBuffers := [⟨.empty, m.mode⟩] }
  | inAuto .mapped m => { sendStatics := [.empty], sendBuffers := [m] }
  | outAuto .static m => { recvStatics := [m.region], recvBuffers := [⟨.empty, m.mode⟩] }
  | outAuto .mapped m => { recvStatics := [.empty], recvBuffers := [m] }
  | copyHandle h => { copyHandles := [h] }
  | moveHandle h => { moveHandles := [h] }
  | pid => { sendPid := true }

end Addition

/-! ## categories -/

/-- The kinds of items that a builder collects. -/
inductive Category where
  | sendStatics
  | sendBuffers
  | recvBuffers
  | recvStatics
  | copyHandles
  | moveHandles
  deriving DecidableEq

/-- What an item of a category is. -/
abbrev Category.Item : Category → Type
  | .sendStatics | .recvStatics => Region
  | .sendBuffers | .recvBuffers => Mapping
  | .copyHandles | .moveHandles => UInt32

/-- The items of one category, in their order. -/
def held (b : Builder) : (c : Category) → List c.Item
  | .sendStatics => b.sendStatics
  | .sendBuffers => b.sendBuffers
  | .recvBuffers => b.recvBuffers
  | .recvStatics => b.recvStatics
  | .copyHandles => b.copyHandles
  | .moveHandles => b.moveHandles

theorem held_plus (a b : Builder) (c : Category) : (a.plus b).held c = a.held c ++ b.held c := by
  cases c <;> rfl

theorem held_empty (c : Category) : empty.held c = [] := by
  cases c <;> rfl

namespace Addition

/-- The categories that an addition adds to. -/
def names : Addition → List Category
  | sendBuffer _ => [.sendBuffers]
  | recvBuffer _ => [.recvBuffers]
  | sendStatic _ => [.sendStatics]
  | recvStatic _ => [.recvStatics]
  | inAuto _ _ => [.sendStatics, .sendBuffers]
  | outAuto _ _ => [.recvStatics, .recvBuffers]
  | copyHandle _ => [.copyHandles]
  | moveHandle _ => [.moveHandles]
  | pid => []

/-- The memory that an addition puts into a static; a buffer that may travel either way only if it is to be one. -/
def static? : Addition → Option Region
  | sendStatic r | recvStatic r => some r
  | inAuto .static m | outAuto .static m => some m.region
  | _ => none

/-- An addition that a builder has no place for: a category that it names is full, or its static is too large. -/
def Refused (a : Addition) (b : Builder) : Prop :=
  (∃ c ∈ a.names, 8 ≤ (b.held c).length) ∨ ∃ r, a.static? = some r ∧ 0xFFFF < r.length

variable {a : Addition} {b : Builder} {c : Category} {r : Region}

theorem refused_of_plain (c : Category) (hn : a.names = [c]) (hs : a.static? = none) :
    a.Refused b ↔ ¬ (b.held c).length < maxBuffers := by
  simp [Refused, hn, hs, maxBuffers]

theorem refused_of_static (hn : a.names = [c]) (hs : a.static? = some r) :
    a.Refused b ↔ ¬ (b.held c).length < maxBuffers ∨ maxStaticSize < r.length := by
  simp [Refused, hn, hs, maxBuffers, maxStaticSize]

theorem not_refused_pid : ¬ pid.Refused b := by
  simp [Refused, names, static?]

/-- **An addition brings one item for each category that it names**, and none for any other. -/
theorem length_held_items (a : Addition) (c : Category) : (a.items.held c).length = a.names.count c := by
  cases a with
  | inAuto p m => cases p <;> cases c <;> rfl
  | outAuto p m => cases p <;> cases c <;> rfl
  | _ => cases c <;> rfl

theorem held_items_of_not_mem (h : c ∉ a.names) : a.items.held c = [] := by
  have hlen := a.length_held_items c
  rw [List.count_eq_zero_of_not_mem h] at hlen
  exact List.eq_nil_of_length_eq_zero hlen

end Addition

/-! ## one addition -/

/-- Every static has a length that a descriptor can name. -/
def StaticsFit (b : Builder) : Prop :=
  (∀ r ∈ b.sendStatics, r.length ≤ maxStaticSize) ∧ ∀ r ∈ b.recvStatics, r.length ≤ maxStaticSize

theorem staticsFit_empty : empty.StaticsFit := by
  constructor <;> exact fun _ hr => absurd hr List.not_mem_nil

theorem StaticsFit.plus {a b : Builder} (ha : a.StaticsFit) (hb : b.StaticsFit) : (a.plus b).StaticsFit := by
  constructor
  · intro r hr
    exact (List.mem_append.1 hr).elim (ha.1 r) (hb.1 r)
  · intro r hr
    exact (List.mem_append.1 hr).elim (ha.2 r) (hb.2 r)

theorem staticsFit_sendStatic {r : Region} (h : r.length ≤ maxStaticSize) :
    StaticsFit { sendStatics := [r] } :=
  ⟨fun _ hr => by rw [List.mem_singleton.1 hr]; exact h, fun _ hr => absurd hr List.not_mem_nil⟩

theorem staticsFit_recvStatic {r : Region} (h : r.length ≤ maxStaticSize) :
    StaticsFit { recvStatics := [r] } :=
  ⟨fun _ hr => absurd hr List.not_mem_nil, fun _ hr => by rw [List.mem_singleton.1 hr]; exact h⟩

/-- **The statics of an addition can be named** if the one that carries memory can. -/
theorem Addition.staticsFit_items (a : Addition) (h : ∀ r, a.static? = some r → r.length ≤ maxStaticSize) :
    a.items.StaticsFit := by
  cases a with
  | sendStatic r => exact staticsFit_sendStatic (h r rfl)
  | recvStatic r => exact staticsFit_recvStatic (h r rfl)
  | inAuto p m =>
    cases p with
    | static => exact staticsFit_sendStatic (h m.region rfl)
    | mapped => exact staticsFit_sendStatic (r := .empty) (Nat.zero_le _)
  | outAuto p m =>
    cases p with
    | static => exact staticsFit_recvStatic (h m.region rfl)
    | mapped => exact staticsFit_recvStatic (r := .empty) (Nat.zero_le _)
  | _ => exact staticsFit_empty

/-- **Pushing onto one category**: where it is full nothing changes. -/
theorem push_on {α : Type} (field : Builder → List α) (put : Builder → List α → Builder) (limit : Nat)
    (full : BuildError) (x : α) (b : Builder) :
    (do let b ← get; let xs ← Attempt.ofExcept (push limit full (field b) x); set (put b xs) :
      Attempt Builder BuildError PUnit).on b =
      if (field b).length < limit then (.ok ⟨⟩, put b (field b ++ [x])) else (.error full, b) := by
  by_cases h : (field b).length < limit
  · have hpush : push limit full (field b) x = .ok (field b ++ [x]) := if_pos h
    rw [Attempt.on_bind, Attempt.on_get, if_pos h]
    show (Attempt.ofExcept (push limit full (field b) x) >>= fun xs => set (put b xs)).on b = _
    rw [Attempt.on_bind, Attempt.on_ofExcept, hpush]
    rfl
  · have hpush : push limit full (field b) x = .error full := if_neg h
    rw [Attempt.on_bind, Attempt.on_get, if_neg h]
    show (Attempt.ofExcept (push limit full (field b) x) >>= fun xs => set (put b xs)).on b = _
    rw [Attempt.on_bind, Attempt.on_ofExcept, hpush]

theorem pushSendStatic_on (r : Region) (b : Builder) :
    (pushSendStatic r).on b = if b.sendStatics.length < maxBuffers then
      (.ok (), { b with sendStatics := b.sendStatics ++ [r] }) else (.error .tooManyBuffers, b) :=
  push_on sendStatics (fun b xs => { b with sendStatics := xs }) _ _ _ _

theorem pushRecvStatic_on (r : Region) (b : Builder) :
    (pushRecvStatic r).on b = if b.recvStatics.length < maxBuffers then
      (.ok (), { b with recvStatics := b.recvStatics ++ [r] }) else (.error .tooManyBuffers, b) :=
  push_on recvStatics (fun b xs => { b with recvStatics := xs }) _ _ _ _

theorem addSendBuffer_on (m : Mapping) (b : Builder) :
    (addSendBuffer m).on b = if b.sendBuffers.length < maxBuffers then
      (.ok (), { b with sendBuffers := b.sendBuffers ++ [m] }) else (.error .tooManyBuffers, b) :=
  push_on sendBuffers (fun b xs => { b with sendBuffers := xs }) _ _ _ _

theorem addRecvBuffer_on (m : Mapping) (b : Builder) :
    (addRecvBuffer m).on b = if b.recvBuffers.length < maxBuffers then
      (.ok (), { b with recvBuffers := b.recvBuffers ++ [m] }) else (.error .tooManyBuffers, b) :=
  push_on recvBuffers (fun b xs => { b with recvBuffers := xs }) _ _ _ _

theorem placed_static_of_small {r : Region} (h : r.length ≤ maxStaticSize) : placed .static r = .ok (r, .empty) := by
  have hcheck : checkStatic r = .ok () := if_neg (Nat.not_lt_of_le h)
  rw [placed, hcheck]
  rfl

theorem placed_static_of_large {r : Region} (h : maxStaticSize < r.length) :
    placed .static r = .error .staticTooLarge := by
  have hcheck : checkStatic r = .error .staticTooLarge := if_pos h
  rw [placed, hcheck]
  rfl

/-- A region is too large for the static that it is to be, or there is a region for each of the two ways. -/
theorem placed_cases (p : Placement) (r : Region) :
    (p = .static ∧ maxStaticSize < r.length) ∧ placed p r = .error .staticTooLarge ∨
      ¬ (p = .static ∧ maxStaticSize < r.length) ∧ ∃ pointer mapped, placed p r = .ok (pointer, mapped) ∧
        (p = .static ∧ pointer = r ∧ mapped = .empty ∨ p = .mapped ∧ pointer = .empty ∧ mapped = r) := by
  cases p with
  | static =>
    by_cases hlarge : maxStaticSize < r.length
    · exact .inl ⟨⟨rfl, hlarge⟩, placed_static_of_large hlarge⟩
    · exact .inr ⟨fun h => hlarge h.2, r, .empty, placed_static_of_small (Nat.le_of_not_lt hlarge),
        .inl ⟨rfl, rfl, rfl⟩⟩
  | mapped => exact .inr ⟨nofun, .empty, r, rfl, .inr ⟨rfl, rfl, rfl⟩⟩

/-- How an addition goes: it fails and changes nothing if it is refused, and otherwise adds its items. -/
def Goes (refused : Prop) (x : Attempt Builder BuildError Unit) (b items : Builder) : Prop :=
  (refused ∧ ∃ e, x.on b = (.error e, b)) ∨ (¬ refused ∧ x.on b = (.ok (), b.plus items))

theorem goes_of_ite {x : Attempt Builder BuildError Unit} {b b' items : Builder} {p refused : Prop} [Decidable p]
    {e : BuildError} (h : x.on b = if p then (.ok (), b') else (.error e, b)) (hb : b' = b.plus items)
    (hr : refused ↔ ¬ p) : Goes refused x b items := by
  by_cases hp : p
  · rw [if_pos hp, hb] at h
    exact .inr ⟨fun hrefused => hr.1 hrefused hp, h⟩
  · rw [if_neg hp] at h
    exact .inl ⟨hr.2 hp, e, h⟩

/-- A push whose region must be nameable fails before it or goes as the push. -/
theorem goes_of_check {x : Attempt Builder BuildError Unit} {b items : Builder} {r : Region} {full : Prop}
    (h : Goes full x b items) :
    Goes (full ∨ maxStaticSize < r.length) (do Attempt.ofExcept (checkStatic r); x) b items := by
  unfold Goes
  rw [Attempt.on_bind, Attempt.on_ofExcept]
  by_cases hlarge : maxStaticSize < r.length
  · have hcheck : checkStatic r = .error .staticTooLarge := if_pos hlarge
    rw [hcheck]
    exact .inl ⟨.inr hlarge, .staticTooLarge, rfl⟩
  · have hcheck : checkStatic r = .ok () := if_neg hlarge
    rw [hcheck]
    rcases h with ⟨hfull, hfail⟩ | ⟨hroom, hadd⟩
    · exact .inl ⟨.inl hfull, hfail⟩
    · exact .inr ⟨fun hrefused => hrefused.elim hroom hlarge, hadd⟩

/-- Where both categories have room, a buffer that is sent either way is added to both. -/
theorem addInAuto_on {p : Placement} {m : Mapping} {b : Builder} {pointer mapped : Region}
    (hroom : b.sendStatics.length < maxBuffers ∧ b.sendBuffers.length < maxBuffers)
    (hp : placed p m.region = .ok (pointer, mapped)) :
    (addInAuto p m).on b =
      (.ok (), b.plus { sendStatics := [pointer], sendBuffers := [{ m with region := mapped }] }) := by
  have hfull : ¬ (maxBuffers ≤ b.sendStatics.length ∨ maxBuffers ≤ b.sendBuffers.length) := by omega
  unfold addInAuto
  simp [hfull, hp, pushSendStatic_on, addSendBuffer_on, hroom, plus]

theorem addOutAuto_on {p : Placement} {m : Mapping} {b : Builder} {pointer mapped : Region}
    (hroom : b.recvStatics.length < maxBuffers ∧ b.recvBuffers.length < maxBuffers)
    (hp : placed p m.region = .ok (pointer, mapped)) :
    (addOutAuto p m).on b =
      (.ok (), b.plus { recvStatics := [pointer], recvBuffers := [{ m with region := mapped }] }) := by
  have hfull : ¬ (maxBuffers ≤ b.recvStatics.length ∨ maxBuffers ≤ b.recvBuffers.length) := by omega
  unfold addOutAuto
  simp [hfull, hp, pushRecvStatic_on, addRecvBuffer_on, hroom, plus]

theorem refused_inAuto (p : Placement) (m : Mapping) (b : Builder) :
    (Addition.inAuto p m).Refused b ↔ (maxBuffers ≤ b.sendStatics.length ∨ maxBuffers ≤ b.sendBuffers.length) ∨
      p = .static ∧ maxStaticSize < m.region.length := by
  cases p <;> simp [Addition.Refused, Addition.names, Addition.static?, held, maxBuffers, maxStaticSize]

theorem refused_outAuto (p : Placement) (m : Mapping) (b : Builder) :
    (Addition.outAuto p m).Refused b ↔ (maxBuffers ≤ b.recvStatics.length ∨ maxBuffers ≤ b.recvBuffers.length) ∨
      p = .static ∧ maxStaticSize < m.region.length := by
  cases p <;> simp [Addition.Refused, Addition.names, Addition.static?, held, maxBuffers, maxStaticSize]

/-- **A buffer that is sent either way** fails as a whole, or is added to both categories: the room in both is looked at
before anything is added. -/
theorem addInAuto_goes (p : Placement) (m : Mapping) (b : Builder) :
    Goes ((Addition.inAuto p m).Refused b) (addInAuto p m) b (Addition.inAuto p m).items := by
  rw [refused_inAuto]
  by_cases hfull : maxBuffers ≤ b.sendStatics.length ∨ maxBuffers ≤ b.sendBuffers.length
  · exact .inl ⟨.inl hfull, .tooManyBuffers, by simp [addInAuto, hfull]⟩
  rcases placed_cases p m.region with ⟨hlarge, hp⟩ | ⟨hsmall, pointer, mapped, hp, hway⟩
  · exact .inl ⟨.inr hlarge, .staticTooLarge, by simp [addInAuto, hfull, hp]⟩
  · have hitems : (Addition.inAuto p m).items =
        { sendStatics := [pointer], sendBuffers := [{ m with region := mapped }] } := by
      rcases hway with ⟨rfl, rfl, rfl⟩ | ⟨rfl, rfl, rfl⟩ <;> rfl
    rw [hitems]
    exact .inr ⟨fun hrefused => hrefused.elim hfull hsmall, addInAuto_on (by omega) hp⟩

theorem addOutAuto_goes (p : Placement) (m : Mapping) (b : Builder) :
    Goes ((Addition.outAuto p m).Refused b) (addOutAuto p m) b (Addition.outAuto p m).items := by
  rw [refused_outAuto]
  by_cases hfull : maxBuffers ≤ b.recvStatics.length ∨ maxBuffers ≤ b.recvBuffers.length
  · exact .inl ⟨.inl hfull, .tooManyBuffers, by simp [addOutAuto, hfull]⟩
  rcases placed_cases p m.region with ⟨hlarge, hp⟩ | ⟨hsmall, pointer, mapped, hp, hway⟩
  · exact .inl ⟨.inr hlarge, .staticTooLarge, by simp [addOutAuto, hfull, hp]⟩
  · have hitems : (Addition.outAuto p m).items =
        { recvStatics := [pointer], recvBuffers := [{ m with region := mapped }] } := by
      rcases hway with ⟨rfl, rfl, rfl⟩ | ⟨rfl, rfl, rfl⟩ <;> rfl
    rw [hitems]
    exact .inr ⟨fun hrefused => hrefused.elim hfull hsmall, addOutAuto_on (by omega) hp⟩

theorem addSendStatic_goes (r : Region) (b : Builder) :
    Goes ((Addition.sendStatic r).Refused b) (addSendStatic r) b (Addition.sendStatic r).items := by
  rw [Addition.refused_of_static rfl rfl]
  exact goes_of_check (goes_of_ite (pushSendStatic_on r b) (by simp [plus, Addition.items]) Iff.rfl)

theorem addRecvStatic_goes (r : Region) (b : Builder) :
    Goes ((Addition.recvStatic r).Refused b) (addRecvStatic r) b (Addition.recvStatic r).items := by
  rw [Addition.refused_of_static rfl rfl]
  exact goes_of_check (goes_of_ite (pushRecvStatic_on r b) (by simp [plus, Addition.items]) Iff.rfl)

/-- **Every addition** fails and changes nothing if it is refused, and otherwise adds its items and no other. -/
theorem add_goes (b : Builder) : ∀ a : Addition, Goes (a.Refused b) (add a) b a.items
  | .sendBuffer m =>
    goes_of_ite (addSendBuffer_on m b) (by simp [plus, Addition.items]) (Addition.refused_of_plain .sendBuffers rfl rfl)
  | .recvBuffer m =>
    goes_of_ite (addRecvBuffer_on m b) (by simp [plus, Addition.items]) (Addition.refused_of_plain .recvBuffers rfl rfl)
  | .sendStatic r => addSendStatic_goes r b
  | .recvStatic r => addRecvStatic_goes r b
  | .inAuto p m => addInAuto_goes p m b
  | .outAuto p m => addOutAuto_goes p m b
  | .copyHandle h =>
    goes_of_ite (push_on copyHandles (fun b xs => { b with copyHandles := xs }) _ _ h b)
      (by simp [plus, Addition.items]) (Addition.refused_of_plain .copyHandles rfl rfl)
  | .moveHandle h =>
    goes_of_ite (push_on moveHandles (fun b xs => { b with moveHandles := xs }) _ _ h b)
      (by simp [plus, Addition.items]) (Addition.refused_of_plain .moveHandles rfl rfl)
  | .pid => .inr ⟨Addition.not_refused_pid, by simp [add, requestPid, plus, Addition.items]⟩

/-- How an addition can go: it fails and changes nothing, or its items are added and its statics can be named. -/
def Adds (x : Attempt Builder BuildError Unit) (b items : Builder) : Prop :=
  (∃ e, x.on b = (.error e, b)) ∨ x.on b = (.ok (), b.plus items) ∧ items.StaticsFit

theorem add_adds (b : Builder) (a : Addition) : Adds (add a) b a.items := by
  rcases add_goes b a with ⟨-, hfail⟩ | ⟨hplace, hadd⟩
  · exact .inl hfail
  · exact .inr ⟨hadd, a.staticsFit_items fun r hr => Nat.le_of_not_lt fun hlen => hplace (.inr ⟨r, hr, hlen⟩)⟩

/-! ## runs of additions -/

/-- The additions whose outcome is a success, in their order. -/
def accepted : List Addition → List (Except BuildError Unit) → List Addition
  | a :: additions, .ok () :: outcomes => a :: accepted additions outcomes
  | _ :: additions, .error _ :: outcomes => accepted additions outcomes
  | _, _ => []

/-- The items of several additions, category by category and in their order. -/
def itemsOf (additions : List Addition) : Builder where
  sendStatics := additions.flatMap (·.items.sendStatics)
  sendBuffers := additions.flatMap (·.items.sendBuffers)
  recvBuffers := additions.flatMap (·.items.recvBuffers)
  recvStatics := additions.flatMap (·.items.recvStatics)
  copyHandles := additions.flatMap (·.items.copyHandles)
  moveHandles := additions.flatMap (·.items.moveHandles)
  sendPid := additions.any (·.items.sendPid)

theorem itemsOf_cons (a : Addition) (additions : List Addition) :
    itemsOf (a :: additions) = a.items.plus (itemsOf additions) := by
  unfold itemsOf plus
  simp only [List.flatMap_cons, List.any_cons]

/-- **A run of additions** leaves the items of those that succeeded behind what was there before, and every static among
them can be named. -/
theorem addAll_spec : ∀ (additions : List Addition) (b : Builder),
    (addAll additions b).2 = b.plus (itemsOf (accepted additions (addAll additions b).1)) ∧
      (itemsOf (accepted additions (addAll additions b).1)).StaticsFit
  | [], b => ⟨b.plus_empty.symm, staticsFit_empty⟩
  | a :: rest, b => by
    rcases add_adds b a with ⟨e, h⟩ | ⟨h, hf⟩
    · have hall : addAll (a :: rest) b = (.error e :: (addAll rest b).1, (addAll rest b).2) := by
        rw [addAll, h]
      rw [hall]
      exact addAll_spec rest b
    · have hall : addAll (a :: rest) b = (.ok () :: (addAll rest (b.plus a.items)).1,
          (addAll rest (b.plus a.items)).2) := by
        rw [addAll, h]
      obtain ⟨ih, ihf⟩ := addAll_spec rest (b.plus a.items)
      rw [hall]
      show (addAll rest (b.plus a.items)).2 = b.plus (itemsOf (a :: accepted rest _)) ∧
        (itemsOf (a :: accepted rest _)).StaticsFit
      rw [itemsOf_cons, ← plus_assoc]
      exact ⟨ih, hf.plus ihf⟩

/-- **Collecting goes as a run** of additions all of which succeed, if it succeeds at all. -/
theorem addAll_of_forM : ∀ (additions : List Addition) (b b' : Builder),
    (additions.forM add).on b = (.ok ⟨⟩, b') →
      (addAll additions b).2 = b' ∧ accepted additions (addAll additions b).1 = additions
  | [], _, _, h => by
    cases h
    exact ⟨rfl, rfl⟩
  | a :: rest, b, b', h => by
    change (add a >>= fun _ => rest.forM add).on b = _ at h
    rw [Attempt.on_bind] at h
    rcases ha : (add a).on b with ⟨e | _, b₁⟩ <;> rw [ha] at h
    · cases h
    · obtain ⟨hb, hall⟩ := addAll_of_forM rest b₁ b' h
      rw [addAll, ha]
      exact ⟨hb, congrArg (a :: ·) hall⟩

theorem addAll_of_collect {additions : List Addition} {b : Builder} (h : collect additions = .ok b) :
    (addAll additions empty).2 = b ∧ accepted additions (addAll additions empty).1 = additions := by
  unfold collect at h
  rcases hrun : (additions.forM add).on empty with ⟨e | _, b'⟩ <;> rw [hrun] at h <;> cases h
  exact addAll_of_forM additions empty b hrun

/-- **Collecting** succeeds only with the items of all the additions. -/
theorem collect_spec {additions : List Addition} {b : Builder} (h : collect additions = .ok b) :
    b = itemsOf additions ∧ b.StaticsFit := by
  obtain ⟨hb, hall⟩ := addAll_of_collect h
  obtain ⟨hitems, hf⟩ := addAll_spec additions empty
  rw [hb, hall, empty_plus] at hitems
  rw [hall, ← hitems] at hf
  exact ⟨hitems, hf⟩

/-- Two additions that succeed one after the other are collected. -/
theorem collect_two {a a' : Addition} {b b' : Builder} (h : (add a).on empty = (.ok (), b))
    (h' : (add a').on b = (.ok (), b')) : collect [a, a'] = .ok b' := by
  unfold collect
  change (match (add a >>= fun _ => add a' >>= fun _ => pure ()).on empty with
    | (.ok _, b) => _
    | (.error e, _) => _) = _
  rw [Attempt.on_bind, h]
  change (match (add a' >>= fun _ => pure ()).on b with | (.ok _, b) => _ | (.error e, _) => _) = _
  rw [Attempt.on_bind, h']
  rfl

/-- Two buffers that are to travel as statics, one of them too large for that, are refused. -/
theorem collect_of_large {m m' : Mapping}
    (h : maxStaticSize < m.region.length ∨ maxStaticSize < m'.region.length) :
    collect [.inAuto .static m, .outAuto .static m'] = .error .staticTooLarge := by
  unfold collect
  simp only [List.forM, Attempt.on_bind]
  by_cases hlarge : maxStaticSize < m.region.length
  · simp [add, addInAuto, empty, placed_static_of_large hlarge, maxBuffers]
  · have hsmall := placed_static_of_small (Nat.le_of_not_lt hlarge)
    have hon : (add (.inAuto .static m)).on empty = _ :=
      addInAuto_on ⟨Nat.zero_lt_succ _, Nat.zero_lt_succ _⟩ hsmall
    have hplaced := placed_static_of_large (h.resolve_left hlarge)
    rw [hon]
    simp [add, addOutAuto, plus, empty, hplaced, maxBuffers]

end Builder
end HorizonIpc
