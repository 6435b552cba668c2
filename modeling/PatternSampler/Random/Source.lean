import PatternSampler.Tree

/-! # Sources of randomness

A source hands out raw 32-bit draws, one at a time, and comes back changed. It can be asked only
finitely often. That number is known beforehand, so that drawing again and again until a draw fits
comes to an end; the number is large enough never to be met by a seeded source.
-/

namespace PatternSampler

/-- A state that raw draws come from. -/
class DrawSource (σ : Type) where
  /-- The next draw and the source after it; none when there are no more. -/
  next? : σ → Option (UInt32 × σ)
  /-- A limit to how often the source can still be asked. -/
  remaining : σ → Nat
  remaining_lt : ∀ {s s' : σ} {v : UInt32}, next? s = some (v, s') → remaining s' < remaining s

/-- A list of draws is a source that hands out its elements in order. -/
instance : DrawSource (List UInt32) where
  next?
    | [] => none
    | v :: vs => some (v, vs)
  remaining := List.length
  remaining_lt {s s' v} h := by
    cases s with
    | nil => simp at h
    | cons w ws => simp_all

/-- The number that the next `more + 1` draws make up, the first of them at the low end. -/
def drawWord {σ : Type} [DrawSource σ] : (more : Nat) → σ → Option (Nat × σ)
  | 0, s => (fun (v, s) => (v.toNat, s)) <$> DrawSource.next? s
  | more + 1, s =>
    match DrawSource.next? s with
    | none => none
    | some (v, s) => (fun (high, s) => (v.toNat + UInt32.size * high, s)) <$> drawWord more s

theorem remaining_lt_of_drawWord {σ : Type} [DrawSource σ] {more n : Nat} {s s' : σ}
    (h : drawWord more s = some (n, s')) : DrawSource.remaining s' < DrawSource.remaining s := by
  induction more generalizing n s with
  | zero =>
      simp only [drawWord, Option.map_eq_map, Option.map_eq_some_iff, Prod.mk.injEq] at h
      obtain ⟨⟨v, t⟩, drawn, -, rfl⟩ := h
      exact DrawSource.remaining_lt drawn
  | succ more ih =>
      simp only [drawWord] at h
      split at h
      · simp at h
      · rename_i v t drawn
        simp only [Option.map_eq_map, Option.map_eq_some_iff, Prod.mk.injEq] at h
        obtain ⟨⟨high, u⟩, rest, -, rfl⟩ := h
        have := DrawSource.remaining_lt drawn
        have := ih rest
        omega

/-- Draw numbers of `more + 1` draws until `accept` takes one. -/
def drawUntil {σ α : Type} [DrawSource σ] (more : Nat) (accept : Nat → Option α) (s : σ) :
    Except Fault (α × σ) :=
  match _h : drawWord more s with
  | none => .error .exhausted
  | some (n, s') =>
    match accept n with
    | some a => .ok (a, s')
    | none => drawUntil more accept s'
termination_by DrawSource.remaining s
decreasing_by exact remaining_lt_of_drawWord _h

end PatternSampler
