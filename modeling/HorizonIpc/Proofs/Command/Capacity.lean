import HorizonIpc.Proofs.Command.Additions
import Mathlib.Data.List.Nodup
/-!
# Proofs.Command.Capacity — a builder holds exactly what was accepted

No category ever holds more than eight items: an addition brings at most one item for a category, and only where the
category has room for it (`Capped.add`).  With what a run of additions leaves behind this says what a builder is after
any run, and how the next addition goes (`exactly_accepted`).
-/
namespace HorizonIpc
namespace Builder

variable {a : Addition} {b : Builder}

/-- A builder with at most eight items of every category. -/
def Capped (b : Builder) : Prop := ∀ c, (b.held c).length ≤ 8

theorem capped_empty : empty.Capped := by
  intro c
  rw [held_empty]
  exact Nat.zero_le _

theorem Addition.nodup_names (a : Addition) : a.names.Nodup := by
  cases a <;> simp [names]

/-- **One addition** fills a category only if there is room. -/
theorem Capped.add (hb : b.Capped) (a : Addition) : ((add a).on b).2.Capped := by
  rcases add_goes b a with ⟨-, e, hfail⟩ | ⟨hplace, hadd⟩
  · rw [hfail]
    exact hb
  · rw [hadd]
    intro c
    rw [held_plus, List.length_append, Addition.length_held_items]
    by_cases hc : c ∈ a.names
    · have hroom : (b.held c).length < 8 := Nat.lt_of_not_le fun hle => hplace (.inl ⟨c, hc, hle⟩)
      have hone : a.names.count c ≤ 1 := List.nodup_iff_count_le_one.1 a.nodup_names c
      omega
    · rw [List.count_eq_zero_of_not_mem hc]
      exact hb c

theorem Capped.addAll : ∀ (additions : List Addition) {b : Builder}, b.Capped → (addAll additions b).2.Capped
  | [], _, hb => hb
  | a :: rest, _, hb => Capped.addAll rest (hb.add a)

theorem capped_collect {additions : List Addition} (h : collect additions = .ok b) : b.Capped := by
  rw [← (addAll_of_collect h).1]
  exact Capped.addAll additions capped_empty

theorem held_itemsOf (additions : List Addition) (c : Category) :
    (itemsOf additions).held c = additions.flatMap fun a => a.items.held c := by
  cases c <;> rfl

/-- What an addition that was not refused has made of a builder: behind the items of each category that it names there
is one more, and no other category has changed. -/
structure Added (a : Addition) (b b' : Builder) : Prop where
  plus : b' = b.plus a.items
  named : ∀ c ∈ a.names, ∃ x, b'.held c = b.held c ++ [x]
  other : ∀ c ∉ a.names, b'.held c = b.held c

theorem added_plus (a : Addition) (b : Builder) : Added a b (b.plus a.items) where
  plus := rfl
  named c hc := by
    have hone : (a.items.held c).length = 1 := by
      rw [a.length_held_items, List.count_eq_one_of_mem a.nodup_names hc]
    obtain ⟨x, hx⟩ := List.length_eq_one_iff.1 hone
    exact ⟨x, by rw [held_plus, hx]⟩
  other c hc := by
    rw [held_plus, Addition.held_items_of_not_mem hc, List.append_nil]

/-- **A builder holds exactly what was accepted.**  After any run of additions every category holds, in their order, the
items of those that succeeded, eight at the most.  The next addition fails exactly if a category that it names is full
or a buffer that it is to put into a static is too large for one; then nothing has changed, and otherwise only the
categories that it names have. -/
theorem exactly_accepted (additions : List Addition) (a : Addition) :
    let run := addAll additions .empty
    let b := run.2
    let step := (add a).on b
    b = itemsOf (accepted additions run.1) ∧
      (∀ c, b.held c = (accepted additions run.1).flatMap fun a' => a'.items.held c) ∧
      (∀ c, (b.held c).length ≤ 8) ∧
      ((∃ e, step.1 = .error e) ↔ a.Refused b) ∧
      (∀ e, step.1 = .error e → step.2 = b) ∧
      (step.1 = .ok () → Added a b step.2) := by
  intro run b step
  have hb : b = itemsOf (accepted additions run.1) := by
    rw [← empty_plus (itemsOf _)]
    exact (addAll_spec additions .empty).1
  have hheld (c : Category) : b.held c = (accepted additions run.1).flatMap fun a' => a'.items.held c := by
    rw [hb, held_itemsOf]
  refine ⟨hb, hheld, Capped.addAll additions capped_empty, ?_⟩
  rcases add_goes b a with ⟨hrefused, e, hfail⟩ | ⟨hplace, hadd⟩
  · have hstep : step = (.error e, b) := hfail
    rw [hstep]
    exact ⟨⟨fun _ => hrefused, fun _ => ⟨e, rfl⟩⟩, fun _ _ => rfl, nofun⟩
  · have hstep : step = (.ok (), b.plus a.items) := hadd
    rw [hstep]
    exact ⟨⟨nofun, fun hrefused => absurd hrefused hplace⟩, nofun, fun _ => added_plus a b⟩

end Builder
end HorizonIpc
