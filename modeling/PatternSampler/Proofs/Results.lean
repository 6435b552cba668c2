import Mathlib

/-! # Computations that may fail

What comes of one step after another, what becomes of their errors, and which of several problems a
computation fails for.
-/

namespace PatternSampler

variable {ε ε' α β : Type}

theorem ok_then {a : α} {next : α → Except ε β} : Except.ok a >>= next = next a := rfl

theorem error_then {e : ε} {next : α → Except ε β} : Except.error e >>= next = .error e := rfl

theorem then_eq_ok {x : Except ε α} {next : α → Except ε β} {b : β} :
    x >>= next = .ok b ↔ ∃ a, x = .ok a ∧ next a = .ok b := by
  cases x with
  | error e => simp [error_then]
  | ok a => simp [ok_then]

theorem then_eq_error {x : Except ε α} {next : α → Except ε β} {e : ε} :
    x >>= next = .error e ↔ x = .error e ∨ ∃ a, x = .ok a ∧ next a = .error e := by
  cases x with
  | error e => simp [error_then]
  | ok a => simp [ok_then]

theorem map_eq_ok {f : α → β} {x : Except ε α} {b : β} : f <$> x = .ok b ↔ ∃ a, x = .ok a ∧ f a = b := by
  cases x <;> simp

theorem map_eq_error {f : α → β} {x : Except ε α} {e : ε} : f <$> x = .error e ↔ x = .error e := by
  cases x <;> simp

theorem mapError_then (g : ε → ε') (x : Except ε α) (next : α → Except ε β) :
    (x >>= next).mapError g = x.mapError g >>= fun a => (next a).mapError g := by
  cases x <;> rfl

theorem mapError_eq_ok {g : ε → ε'} {x : Except ε α} {a : α} : x.mapError g = .ok a ↔ x = .ok a := by
  cases x <;> simp [Except.mapError]

/-! ## Problems -/

/-- What has no problems succeeds, and what has some fails with the first of them. -/
def Meets {ε α : Type} : List ε → Except ε α → Prop
  | [], x => ∃ a, x = .ok a
  | problem :: _, x => x = .error problem

namespace Meets

variable {x : Except ε α} {ps qs : List ε}

theorem of_ok (a : α) : Meets [] (.ok a : Except ε α) := ⟨a, rfl⟩

theorem bind {next : α → Except ε β} (first : Meets ps x)
    (later : ∀ a, x = .ok a → Meets qs (next a)) : Meets (ps ++ qs) (x >>= next) := by
  cases ps with
  | nil =>
      obtain ⟨a, rfl⟩ := first
      exact later a rfl
  | cons p ps =>
      cases first
      rfl

theorem bind_ok {next : α → Except ε β} (first : Meets ps x)
    (later : ∀ a, x = .ok a → ∃ b, next a = .ok b) : Meets ps (x >>= next) := by
  have all : Meets (ps ++ []) (x >>= next) := first.bind later
  rwa [List.append_nil] at all

theorem error_iff (meets : Meets ps x) (e : ε) : x = .error e ↔ ps.head? = some e := by
  cases ps with
  | nil =>
      obtain ⟨a, rfl⟩ := meets
      exact ⟨nofun, nofun⟩
  | cons p ps =>
      cases meets
      simp

theorem ok_iff (meets : Meets ps x) : (∃ a, x = .ok a) ↔ ps = [] := by
  cases ps with
  | nil => exact ⟨fun _ => rfl, fun _ => meets⟩
  | cons p ps =>
      cases meets
      exact ⟨nofun, nofun⟩

end Meets

end PatternSampler
