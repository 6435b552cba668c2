import Mathlib
import PatternSampler.Proofs.Settings.Merging

/-! # Settings without a panic

`SettingsError.badPlace` is the only error that nobody handles. It comes from a place in a list, so it does
not come up as long as every key of a layer or an override is made of names.
-/

namespace PatternSampler

open SettingValue Assignment

/-- `r` is not a panic. -/
def Handled {α : Type} (r : Except SettingsError α) : Prop := ∀ cause, r ≠ .error (.badPlace cause)

namespace Handled

variable {α β : Type} {r : Except SettingsError α}

theorem ok (a : α) : Handled (.ok a) := nofun

theorem bind {next : α → Except SettingsError β} (first : Handled r)
    (later : ∀ a, r = .ok a → Handled (next a)) : Handled (r >>= next) := by
  cases r with
  | error e =>
      intro cause failed
      cases failed
      exact first cause rfl
  | ok a => exact later a rfl

theorem map (f : α → β) (handled : Handled r) : Handled (f <$> r) := by
  rw [map_eq_pure_bind]
  exact handled.bind fun a _ => ok (f a)

theorem foldlM {set : β → α → Except SettingsError β} {xs : List α}
    (each : ∀ x ∈ xs, ∀ b, Handled (set b x)) (b : β) : Handled (xs.foldlM set b) := by
  induction xs generalizing b with
  | nil => exact ok b
  | cons x xs ih =>
      obtain ⟨first, others⟩ := List.forall_mem_cons.mp each
      rw [List.foldlM_cons]
      exact (first b).bind fun b' _ => ih others b'

end Handled

namespace SettingValue

variable (v root : SettingValue)

theorem handled_toNatural (key : String) : Handled (v.toNatural key) := by
  rw [toNatural.eq_def]
  dsimp only
  split
  · split <;> nofun
  · nofun
  · nofun
  · split <;> nofun
  · nofun

theorem handled_toWord32 (key : String) : Handled (v.toWord32 key) := by
  refine (v.handled_toNatural key).bind fun n _ => ?_
  split <;> nofun

theorem handled_toFormat : Handled v.toFormat := by
  have of_name (name : String) : Handled (formatOfName name) := by
    rw [formatOfName]
    split <;> nofun
  rw [toFormat.eq_def]
  split
  · exact of_name _
  · exact of_name _
  · nofun

theorem handled_sectionPart (sectionName path name : String) (place : Nat) :
    Handled (v.sectionPart sectionName path name place) := by
  rw [sectionPart.eq_def]
  split
  · split <;> nofun
  · split <;> nofun
  · nofun

theorem SectionPart.handled_read {α : Type} {coerce : String → SettingValue → Except SettingsError α}
    (handled : ∀ key v, Handled (coerce key v)) (sectionName : String) (needed : Nat)
    (part : SectionPart) : Handled (part.read sectionName needed coerce) := by
  cases part with
  | found key v => exact (handled key v).map some
  | missing name => nofun
  | beyond length => nofun

theorem handled_required {α : Type} (name : String) (a : Option α) : Handled (required name a) := by
  cases a <;> nofun

theorem handled_toSettings : Handled root.toSettings := by
  have extra (v : SettingValue) : Handled v.generatorSettings :=
    (v.handled_sectionPart _ _ _ _).bind fun part _ =>
      (part.handled_read (fun key v => v.handled_toWord32 key) _ _).bind fun _ _ => handled_required _ _
  have output (v : SettingValue) : Handled v.outputSettings := by
    refine (v.handled_sectionPart _ _ _ _).bind fun count _ => ?_
    refine (count.handled_read (fun key v => v.handled_toNatural key) _ _).bind fun _ _ => ?_
    refine (v.handled_sectionPart _ _ _ _).bind fun format _ => ?_
    refine (format.handled_read (fun _ v => v.handled_toFormat) _ _).bind fun _ _ => ?_
    exact (handled_required _ _).bind fun _ _ => (handled_required _ _).bind fun _ _ => .ok _
  refine (handled_required _ _).bind fun generator _ => (extra generator).bind fun _ _ => ?_
  exact (handled_required _ _).bind fun v _ => (output v).bind fun _ _ => .ok _

end SettingValue

theorem Layer.handled_entries (s : Surroundings) (layer : Layer) : Handled (layer.entries s) := by
  cases layer with
  | environment => exact .ok _
  | file name required =>
      intro cause failed
      rw [entries] at failed
      cases found : s.file? name with
      | none =>
          rw [found] at failed
          cases required <;> cases failed
      | some content =>
          rw [found] at failed
          cases parsed : Toml.topSettings? (some content.1) content.2 with
          | none => simp [parsed] at failed
          | some entries => simp [parsed] at failed

namespace Loader

variable {l : Loader} {s : Surroundings}

/-- Every key of the layers is made of names. -/
def Plain (layers : List Layer) (s : Surroundings) : Prop :=
  ∀ layer ∈ layers, ∀ a ∈ layer.assignments s, a.Named

theorem handled_tree (plain : Plain l.layers s)
    (named : ∀ o ∈ l.overrides, o.1 ≠ [] ∧ (ofOverride o).Named) : Handled (l.tree s) := by
  rw [tree]
  refine (Handled.foldlM (fun layer member root => ?_) defaults).bind fun root _ => ?_
  · refine (layer.handled_entries s).bind fun entries read => ?_
    obtain ⟨root', done, -⟩ := exists_layer read (plain layer member) root
    exact done ▸ Handled.ok root'
  · obtain ⟨root', done, -⟩ := exists_overriding named root
    exact done ▸ Handled.ok root'

/-- `Loader.build` is `Handled` where all keys are made of names. -/
theorem handled_build (plain : Plain l.layers s)
    (named : ∀ o ∈ l.overrides, o.1 ≠ [] ∧ (ofOverride o).Named) : Handled (l.build s) :=
  (handled_tree plain named).bind fun root _ => root.handled_toSettings

end Loader

end PatternSampler
