import HorizonIpc.Binder.Lifecycle
import HorizonIpc.Command.Server
import HorizonIpc.Proofs.Session.Ensures
import HorizonIpc.Proofs.Version
/-!
# Proofs.Binder.Mode — which command a binder uses

An initialization that succeeds chooses the command for transactions by the settings alone, whatever was answered
(`ensures_init_mode`).  It is the newer one if that is not forbidden and the version is at least 3.0.0, and that is if
its numbers are or anything is spare in its word (`supportsCombined_iff`).
-/
namespace HorizonIpc

theorem BinderConfig.supportsCombined_iff (config : BinderConfig) :
    config.supportsCombined = true ↔
      config.forceLegacy = false ∧ (config.version.spare ≠ 0 ∨ Version.triple 3 0 0 ≤ config.version.numbers) := by
  have hsince : combinedSince.Holds 0 3 0 0 := Version.holds_ofParts 3 0 0
  rw [supportsCombined, Bool.and_eq_true, decide_eq_true_iff, Bool.not_eq_true', Version.le_iff, hsince.spare,
    hsince.numbers, Nat.pos_iff_ne_zero]
  by_cases h : config.version.spare = 0
  · simp [h]
  · simp [h, Ne.symm h]

namespace Binder

open Client

theorem mode_initialized (b : Binder) (config : BinderConfig) (handle : UInt32) (size : UInt16) :
    (b.initialized config handle size).mode = .combined ↔ config.supportsCombined = true := by
  unfold initialized
  cases config.supportsCombined <;> simp

theorem ensures_init_mode (b : Binder) (selector : UInt32) (config : BinderConfig) :
    Ensures (fun _ => True) [] (b.init selector config) fun r _ =>
      r.1 = .ok () → (r.2.mode = .combined ↔ config.supportsCombined = true) := by
  unfold init
  cases b.state with
  | closed => exact .done nofun
  | initialized => exact .done nofun
  | initializing => exact .done nofun
  | created =>
    refine ensures_bind ((ensures_extends _ []).imp fun r past _ => ?_)
    cases r with
    | error e => exact .note trivial (.done nofun)
    | ok acquired => exact .note trivial (.done fun _ => mode_initialized _ config _ _)

/-- **The command is chosen by the version's numbers, and by what is spare in its word.**  Nothing is spare in a version
made of numbers, and in one made of a word its bits 24 to 30 are.  Versions are ordered by what is spare and then by
their numbers, and by their numbers alone exactly if what is spare is alike or sorts them in the same way.  A binder that
was initialized uses the newer command exactly if that is not forbidden, and anything is spare in the version or its
numbers are at least 3.0.0. -/
theorem mode_by_version {σ : Type} (t : Transport σ) (s : σ) :
    (∀ major minor patch : UInt8,
      (Version.ofParts major minor patch).Holds 0 major.toNat minor.toNat patch.toNat) ∧
    (∀ w : UInt32, (Version.ofWord w).Holds (w.toNat / 2 ^ 24 % 2 ^ 7) (w.toNat / 2 ^ 16 % 2 ^ 8)
      (w.toNat / 2 ^ 8 % 2 ^ 8) (w.toNat % 2 ^ 8)) ∧
    (default : Version).Holds 0 0 0 0 ∧
    (∀ a b : Version,
      (a ≤ b ↔ a.spare < b.spare ∨ a.spare = b.spare ∧ a.numbers ≤ b.numbers) ∧
      (a = b ↔ a.spare = b.spare ∧ a.numbers = b.numbers) ∧
      (a.ByNumbers b ↔ a.spare = b.spare ∨
        a.spare < b.spare ∧ a.numbers < b.numbers ∨ b.spare < a.spare ∧ b.numbers < a.numbers)) ∧
    ∀ (b : Binder) (selector : UInt32) (config : BinderConfig),
      let run := (b.init selector config).run t s
      run.value.1 = .ok () → (run.value.2.mode = .combined ↔
        config.forceLegacy = false ∧ (config.version.spare ≠ 0 ∨ Version.triple 3 0 0 ≤ config.version.numbers)) := by
  refine ⟨Version.holds_ofParts, Version.holds_ofWord, Version.holds_default, fun a b => ?order, ?mode⟩
  case order => exact ⟨Version.le_iff, Version.eq_iff, Version.byNumbers_iff⟩
  case mode =>
    intro b selector config run hok
    rw [← config.supportsCombined_iff]
    exact (run_of_ensures t trivial (ensures_init_mode b selector config) s).2 hok

/-- A server that has a handle and two bytes for whoever asks. -/
def generous : Transport Unit where
  send := fun _ e u => (.ok ⟨((Reply.write { copyHandles := [9], data := [0, 5] }).on e.message).2, []⟩, u)
  close := fun _ u => (.ok (), u)

/-- Custom firmware of version 3.0.1: the bit that tells so is no part of the version. -/
theorem mode_by_version_custom :
    let b := create ⟨⟨1⟩, 0⟩ 7
    let config : BinderConfig := { version := .ofWord 0x80030001 }
    let run := (b.init 0 config).run generous ()
    run.value.1 = .ok () ∧ run.value.2.mode = .combined := by
  intro b config run
  have hok : run.value.1 = .ok () := by decide +kernel
  have hsince : Version.triple 3 0 0 ≤ config.version.numbers := by
    rw [(Version.holds_ofWord 0x80030001).numbers]
    exact Version.triple_le_iff.2 (by decide)
  have hrun : run = (b.init 0 config).run generous () := rfl
  rw [hrun] at hok ⊢
  exact ⟨hok, ((mode_by_version generous ()).2.2.2.2 b 0 config hok).2 ⟨rfl, .inr hsince⟩⟩

/-- The word has a bit above the numbers: it is 0.0.0 by its numbers and another version than 0.0.0, after 3.0.0, and a
binder uses a command that version 0.0.0 does not have. -/
theorem mode_by_version_spare :
    let v := Version.ofWord 0x01000000
    let run := ((create ⟨⟨1⟩, 0⟩ 7).init 0 { version := v }).run generous ()
    v.numbers = (default : Version).numbers ∧ v ≠ default ∧
      ¬ (Version.ofParts 3 0 0).numbers ≤ v.numbers ∧ Version.ofParts 3 0 0 ≤ v ∧
      run.value.1 = .ok () ∧ run.value.2.mode = .combined := by
  intro v run
  have hnumbers : v.numbers = (default : Version).numbers := by decide
  have hbelow : ¬ (Version.ofParts 3 0 0).numbers ≤ v.numbers := by
    rw [Version.numbers, Version.numbers, Version.triple_le_iff]
    decide
  have hok : run.value.1 = .ok () := by decide +kernel
  have hmode : run.value.2.mode = .combined := by decide +kernel
  exact ⟨hnumbers, by decide, hbelow, by decide, hok, hmode⟩

end Binder
end HorizonIpc
