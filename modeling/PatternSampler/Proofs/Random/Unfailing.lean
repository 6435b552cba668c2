import Mathlib
import PatternSampler.Proofs.Random.Pick

/-! # Draws that do not fail

Draws that reject and try again can use up a source, and nothing else can go wrong with them as long as
their ranges are not empty. Whatever was drawn before, there are further draws at which they come to an
end, so no history of draws leaves them without a result for good.
-/

namespace PatternSampler

/-- What is drawn from a source, of whatever type the source is. -/
abbrev Draws (α : Type) := (σ : Type) → [DrawSource σ] → σ → Except Fault (α × σ)

structure Unfailing {α : Type} (f : Draws α) : Prop where
  /-- A failure means that the source has no more draws. -/
  fault : ∀ {σ : Type} [DrawSource σ] {s : σ} {e : Fault}, f σ s = .error e → e = .exhausted
  /-- Draws that are left over make no difference. -/
  extend : ∀ {draws rest : List UInt32} {a : α}, f (List UInt32) draws = .ok (a, rest) →
    ∀ more, f (List UInt32) (draws ++ more) = .ok (a, rest ++ more)
  /-- Any draws can be followed by more draws at which there is a result. -/
  finish : ∀ draws : List UInt32, ∃ more a rest, f (List UInt32) (draws ++ more) = .ok (a, rest)

namespace Draws

variable {α β : Type}

def pure (a : α) : Draws α := fun _ _ s => .ok (a, s)

def andThen (f : Draws α) (g : α → Draws β) : Draws β := fun σ _ s =>
  match f σ s with
  | .error e => .error e
  | .ok (a, s) => g a σ s

/-- The value is what some draws come to. -/
def ComesTo (f : Draws α) (a : α) : Prop :=
  ∃ (σ : Type) (_ : DrawSource σ) (s s' : σ), f σ s = .ok (a, s')

section

variable {σ : Type} [DrawSource σ] {f : Draws α} {g : α → Draws β} {s s' : σ}

theorem andThen_of_error {e : Fault} (failed : f σ s = .error e) : f.andThen g σ s = .error e := by
  simp only [andThen, failed]

theorem andThen_of_ok {a : α} (drawn : f σ s = .ok (a, s')) : f.andThen g σ s = g a σ s' := by
  simp only [andThen, drawn]

end

end Draws

/-! ## One after the other -/

namespace Unfailing

variable {α β : Type}

theorem congr {f g : Draws α} (unfailing : Unfailing f)
    (same : ∀ {σ : Type} [DrawSource σ] (s : σ), g σ s = f σ s) : Unfailing g where
  fault failed := unfailing.fault ((same _).symm.trans failed)
  extend done more := (same _).trans (unfailing.extend ((same _).symm.trans done) more)
  finish draws := by
    simp only [same]
    exact unfailing.finish draws

theorem pure (a : α) : Unfailing (.pure a) where
  fault failed := by cases failed
  extend done more := by
    cases done
    rfl
  finish draws := ⟨[], a, draws ++ [], rfl⟩

/-- `Unfailing` draws in a row, the second only for what the first `ComesTo`. -/
theorem andThen {f : Draws α} {g : α → Draws β} (first : Unfailing f)
    (second : ∀ a, f.ComesTo a → Unfailing (g a)) : Unfailing (f.andThen g) where
  fault {σ _ s e} failed := by
    cases drawn : f σ s with
    | error e' =>
        cases (Draws.andThen_of_error drawn).symm.trans failed
        exact first.fault drawn
    | ok result =>
        rw [Draws.andThen_of_ok drawn] at failed
        exact (second result.1 ⟨σ, _, s, result.2, drawn⟩).fault failed
  extend {draws rest b} done more := by
    cases drawn : f (List UInt32) draws with
    | error e => cases (Draws.andThen_of_error drawn).symm.trans done
    | ok result =>
        rw [Draws.andThen_of_ok drawn] at done
        rw [Draws.andThen_of_ok (first.extend drawn more)]
        exact (second result.1 ⟨_, _, draws, result.2, drawn⟩).extend done more
  finish draws := by
    obtain ⟨more, a, between, drawn⟩ := first.finish draws
    have next := second a ⟨_, _, _, between, drawn⟩
    obtain ⟨more', b, rest, drawn'⟩ := next.finish between
    refine ⟨more ++ more', b, rest, ?_⟩
    rw [← List.append_assoc, Draws.andThen_of_ok (first.extend drawn more')]
    exact drawn'

end Unfailing

/-! ## Until a number is accepted -/

theorem drawWord_append {more n : Nat} {draws rest : List UInt32}
    (drawn : drawWord more draws = some (n, rest)) (behind : List UInt32) :
    drawWord more (draws ++ behind) = some (n, rest ++ behind) := by
  induction more generalizing n draws with
  | zero =>
      cases draws with
      | nil => cases drawn
      | cons v draws =>
          cases drawn
          rfl
  | succ more ih =>
      cases draws with
      | nil => cases drawn
      | cons v draws =>
          simp only [drawWord, DrawSource.next?, Option.map_eq_map, Option.map_eq_some_iff,
            Prod.mk.injEq] at drawn
          obtain ⟨⟨high, _⟩, others, sum, rfl⟩ := drawn
          rw [List.cons_append, drawWord]
          simp only [DrawSource.next?, ih others, Option.map_eq_map, Option.map_some, sum]

theorem exists_drawWord_append {more : Nat} {draws : List UInt32} (few : drawWord more draws = none) :
    ∃ (filling : List UInt32) (n : Nat),
      ∀ rest, drawWord more (draws ++ (filling ++ rest)) = some (n, rest) := by
  induction draws generalizing more with
  | nil =>
      have positive : 0 < 2 ^ (32 * (more + 1)) := by positivity
      obtain ⟨filling, drawn⟩ := exists_drawWord positive
      exact ⟨filling, 0, drawn⟩
  | cons v draws ih =>
      cases more with
      | zero => cases few
      | succ more =>
          have few : drawWord more draws = none := by simpa [drawWord, DrawSource.next?] using few
          obtain ⟨filling, n, drawn⟩ := ih few
          refine ⟨filling, v.toNat + UInt32.size * n, fun rest => ?_⟩
          rw [List.cons_append, drawWord]
          simp only [DrawSource.next?, drawn rest, Option.map_eq_map, Option.map_some]

/-- `drawUntil` is `Unfailing` if it accepts some number. -/
theorem unfailing_drawUntil {α : Type} {more n : Nat} {accept : Nat → Option α} {a : α}
    (small : n < 2 ^ (32 * (more + 1))) (accepted : accept n = some a) :
    Unfailing fun _ _ s => drawUntil more accept s where
  fault {σ _ s e} failed := by
    fun_induction drawUntil more accept s with
    | case1 => exact (Except.error.inj failed).symm
    | case2 => cases failed
    | case3 s n s' drawn rejected ih => exact ih failed
  extend {draws rest b} done behind := by
    fun_induction drawUntil more accept draws with
    | case1 => cases done
    | case2 draws m between drawn b taken =>
        cases done
        rw [drawUntil_of_drawWord (drawWord_append drawn behind), taken]
    | case3 draws m between drawn rejected ih =>
        rw [drawUntil_of_drawWord (drawWord_append drawn behind), rejected]
        exact ih done
  finish draws := by
    obtain ⟨waited, arrived⟩ := exists_drawUntil small accepted
    fun_induction drawUntil more accept draws with
    | case1 draws few =>
        obtain ⟨filling, m, drawn⟩ := exists_drawWord_append few
        cases taken : accept m with
        | some b => exact ⟨filling ++ [], b, [], by rw [drawUntil_of_drawWord (drawn []), taken]⟩
        | none =>
            refine ⟨filling ++ (waited ++ []), a, [], ?_⟩
            rw [drawUntil_of_drawWord (drawn _), taken]
            exact arrived []
    | case2 draws m between drawn b taken =>
        exact ⟨[], b, between, by rw [List.append_nil, drawUntil_of_drawWord drawn, taken]⟩
    | case3 draws m between drawn rejected ih =>
        obtain ⟨behind, b, rest, done⟩ := ih
        refine ⟨behind, b, rest, ?_⟩
        rw [drawUntil_of_drawWord (drawWord_append drawn behind), rejected]
        exact done

/-! ## Picks -/

namespace Pick

theorem unfailing_number {lo hi : Nat} (ordered : lo ≤ hi) (fits : hi - lo < 2 ^ 32) :
    Unfailing fun _ _ s => number lo hi s := by
  obtain ⟨v, small, picked⟩ := exists_numberOf fits le_rfl ordered
  simp only [number, if_neg (not_lt.mpr ordered)]
  exact unfailing_drawUntil small picked

theorem unfailing_place {count : Nat} (filled : count ≠ 0) : Unfailing fun _ _ s => place count s := by
  obtain ⟨v, small, picked⟩ := exists_placeOf (Nat.pos_of_ne_zero filled)
  simp only [place, if_neg filled]
  exact unfailing_drawUntil small picked

theorem unfailing_char {lo hi : Char} (ordered : lo ≤ hi) : Unfailing fun _ _ s => char lo hi s := by
  have ranks : rank lo ≤ rank hi := rank_le_rank.mpr ordered
  obtain ⟨v, small, picked⟩ := exists_codePointOf le_rfl ordered
  have one_draw : v < 2 ^ (32 * (0 + 1)) := small
  let checked (n : Nat) : Draws Char := fun _ _ s =>
    if h : n.isValidChar then .ok (Char.ofNatAux n h, s) else .error (.notACharacter n)
  have unfailing := (unfailing_drawUntil one_draw picked).andThen (g := checked) fun n comes => by
    obtain ⟨σ, _, s, s', drawn⟩ := comes
    obtain ⟨v, small, picked⟩ := drawUntil_ok drawn
    obtain ⟨c, rfl, -⟩ := codePointOf_bounds ranks small picked
    have valid : c.toNat.isValidChar := c.valid
    simp only [checked, valid, dite_true]
    exact Unfailing.pure _
  refine unfailing.congr fun s => ?_
  rw [char, if_neg (not_lt.mpr ranks), Draws.andThen]
  cases drawUntil 0 (codePointOf? lo hi) s <;> rfl

end Pick

end PatternSampler
