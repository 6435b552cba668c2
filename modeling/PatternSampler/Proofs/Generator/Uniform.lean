import Mathlib
import PatternSampler.Proofs.Generator.Unfailing

/-! # Picks are even

A raw draw is rejected or comes to a value, and a pick waits for the first one that is not rejected. The
draws that come to a value stand side by side, from the first whose product reaches the value's part to
the last whose product is still in the zone. They are as many for every value, and at least half of all
draws come to some value.
-/

namespace PatternSampler

/-- What a raw draw comes to; none when it is rejected. -/
def Draws.trial {α : Type} (f : Draws α) (v : UInt32) : Option α :=
  match f (List UInt32) [v] with
  | .ok (a, _) => some a
  | .error _ => none

structure Uniform {α : Type} (f : Draws α) (results : Set α) : Prop where
  spent : ∀ {σ : Type} [DrawSource σ] {s : σ}, DrawSource.next? s = none → f σ s = .error .exhausted
  /-- Raw draws are taken one by one until one of them is not rejected. -/
  step : ∀ {σ : Type} [DrawSource σ] {s s' : σ} {v : UInt32}, DrawSource.next? s = some (v, s') →
    f σ s =
      match f.trial v with
      | some a => .ok (a, s')
      | none => f σ s'
  within : ∀ {v : UInt32} {a : α}, f.trial v = some a → a ∈ results
  even : ∀ a ∈ results, ∀ b ∈ results,
    {v | f.trial v = some a}.ncard = {v | f.trial v = some b}.ncard
  half : 2 ^ 31 ≤ {v | (f.trial v).isSome}.ncard

/-! ## One raw draw at a time -/

section

variable {σ α : Type} [DrawSource σ] {more : Nat} {accept : Nat → Option α} {s s' : σ}

theorem drawUntil_of_next {v : UInt32} (next : DrawSource.next? s = some (v, s')) :
    drawUntil 0 accept s =
      match accept v.toNat with
      | some a => .ok (a, s')
      | none => drawUntil 0 accept s' := by
  have word : drawWord 0 s = some (v.toNat, s') := by rw [drawWord, next]; rfl
  exact drawUntil_of_drawWord word

theorem drawUntil_of_none (spent : DrawSource.next? s = none) :
    drawUntil 0 accept s = .error .exhausted := by
  have word : drawWord 0 s = none := by rw [drawWord, spent]; rfl
  rw [drawUntil]
  split
  · rfl
  · next drawn => cases word.symm.trans drawn

end

theorem Draws.trial_eq {α : Type} {f : Draws α} {outcome : UInt32 → Option α}
    (spent : ∀ {σ : Type} [DrawSource σ] {s : σ}, DrawSource.next? s = none →
      f σ s = .error .exhausted)
    (step : ∀ {σ : Type} [DrawSource σ] {s s' : σ} {v : UInt32}, DrawSource.next? s = some (v, s') →
      f σ s =
        match outcome v with
        | some a => .ok (a, s')
        | none => f σ s') (v : UInt32) : f.trial v = outcome v := by
  have alone : DrawSource.next? [v] = some (v, []) := rfl
  have empty : DrawSource.next? ([] : List UInt32) = none := rfl
  rw [trial, step alone, spent empty]
  cases outcome v <;> rfl

namespace Pick

/-! ## Draws that come to the same value -/

/-- The zone leaves `each` draws for every value, and rejects no more than half of all draws. -/
structure Shares (size zone each : Nat) : Prop where
  pos : 0 < size
  whole : zone + 1 = size * each
  fits : size * each ≤ 2 ^ 32
  half : 2 ^ 31 ≤ size * each

theorem shares_numberZone {size : Nat} (pos : 0 < size) (fits : size ≤ 2 ^ 32) :
    Shares size (numberZone 32 size) (2 ^ (31 - size.log2)) := by
  have whole : 0 < size * 2 ^ (31 - size.log2) := Nat.mul_pos pos (Nat.two_pow_pos _)
  have low : 2 ^ size.log2 ≤ size := Nat.log2_self_le pos.ne'
  have high : size < 2 ^ (size.log2 + 1) := Nat.lt_log2_self
  refine ⟨pos, Nat.sub_add_cancel whole, ?_, ?_⟩
  · rcases Nat.lt_or_ge size.log2 32 with small | all
    · calc size * 2 ^ (31 - size.log2) ≤ 2 ^ (size.log2 + 1) * 2 ^ (31 - size.log2) :=
            Nat.mul_le_mul_right _ high.le
        _ = 2 ^ 32 := by rw [← pow_add]; congr 1; omega
    · rw [Nat.sub_eq_zero_of_le (by omega), pow_zero, Nat.mul_one]
      exact fits
  · calc 2 ^ 31 ≤ 2 ^ size.log2 * 2 ^ (31 - size.log2) := by
          rw [← pow_add]
          exact Nat.pow_le_pow_right (by omega) (by omega)
      _ ≤ size * 2 ^ (31 - size.log2) := Nat.mul_le_mul_right _ low

theorem shares_charZone {size : Nat} (pos : 0 < size) (fits : size ≤ 2 ^ 32) :
    Shares size (charZone size) (2 ^ 32 / size) := by
  have left : (UInt32.size - size) % size = 2 ^ 32 % size := (Nat.mod_eq_sub_mod fits).symm
  have all : UInt32.size = 2 ^ 32 := rfl
  have split := Nat.div_add_mod (2 ^ 32) size
  have below := Nat.mod_lt (2 ^ 32) pos
  have once : size * 1 ≤ size * (2 ^ 32 / size) :=
    Nat.mul_le_mul_left size ((Nat.one_le_div_iff pos).mpr fits)
  refine ⟨pos, ?_, by omega, by omega⟩
  rw [charZone, left, all]
  omega

section Shares

variable {size zone each n v : Nat}

theorem Shares.accept_eq_some (shares : Shares size zone each) : accept 32 size zone v = some n ↔
    2 ^ 32 * n ≤ size * v ∧ size * v < 2 ^ 32 * n + size * each := by
  obtain ⟨-, whole, fits, -⟩ := shares
  rw [accept, Nat.pow_eq, Nat.mul_comm v size, Option.ite_none_right_eq_some, Option.some.injEq]
  constructor
  · rintro ⟨low, rfl⟩
    have split := Nat.div_add_mod (size * v) (2 ^ 32)
    omega
  · rintro ⟨reached, inside⟩
    obtain ⟨low, product⟩ := Nat.exists_eq_add_of_le reached
    have small : low < 2 ^ 32 := by omega
    rw [product, Nat.mul_add_mod, Nat.mul_add_div (Nat.two_pow_pos 32), Nat.mod_eq_of_lt small,
      Nat.div_eq_of_lt small]
    omega

theorem Shares.accept_eq_some_iff_mem (shares : Shares size zone each) : accept 32 size zone v = some n ↔
    v ∈ Set.Ico ((2 ^ 32 * n) ⌈/⌉ size) ((2 ^ 32 * n) ⌈/⌉ size + each) := by
  rw [shares.accept_eq_some, Set.mem_Ico, ceilDiv_le_iff_le_mul shares.pos]
  refine and_congr_right fun _ => ?_
  -- Only from `each` on can the draws of one value be taken off; before, both sides hold.
  rcases lt_or_ge v each with early | late
  · have below : size * v < size * each := Nat.mul_lt_mul_of_pos_left early shares.pos
    omega
  · obtain ⟨w, rfl⟩ := Nat.exists_eq_add_of_le' late
    rw [Nat.mul_add, Nat.add_lt_add_iff_right, Nat.add_lt_add_iff_right, ← not_le, ← not_le,
      ceilDiv_le_iff_le_mul shares.pos]

theorem Shares.ncard_accept (shares : Shares size zone each) (small : n < size) :
    {v : UInt32 | accept 32 size zone v.toNat = some n}.ncard = each := by
  have draws : {v : UInt32 | accept 32 size zone v.toNat = some n} = Set.preimage UInt32.toNat
      (Set.Ico ((2 ^ 32 * n) ⌈/⌉ size) ((2 ^ 32 * n) ⌈/⌉ size + each)) :=
    Set.ext fun v => shares.accept_eq_some_iff_mem
  have numbers : Set.Ico ((2 ^ 32 * n) ⌈/⌉ size) ((2 ^ 32 * n) ⌈/⌉ size + each) ⊆
      Set.range UInt32.toNat := by
    intro v member
    have inside := (shares.accept_eq_some.mp (shares.accept_eq_some_iff_mem.mpr member)).2
    have below : size * v < size * 2 ^ 32 := by
      calc size * v < 2 ^ 32 * n + size * each := inside
        _ ≤ 2 ^ 32 * n + 2 ^ 32 := Nat.add_le_add_left shares.fits _
        _ ≤ size * 2 ^ 32 := by omega
    exact ⟨UInt32.ofNat v, UInt32.toNat_ofNat_of_lt' (Nat.lt_of_mul_lt_mul_left below)⟩
  rw [draws, Set.ncard_preimage_of_injective_subset_range (fun _ _ => UInt32.toNat_inj.mp) numbers,
    Set.ncard_eq_toFinset_card', Set.toFinset_Ico, Nat.card_Ico, Nat.add_sub_cancel_left]

theorem Shares.ncard_value {α : Type} {value : Nat → α} (shares : Shares size zone each)
    (injective : Set.InjOn value (Set.Iio size)) (small : n < size) :
    {v : UInt32 | value <$> accept 32 size zone v.toNat = some (value n)}.ncard = each := by
  rw [← shares.ncard_accept small]
  congr 1
  ext v
  rw [Set.mem_ofPred_eq, Set.mem_ofPred_eq, Option.map_eq_map, Option.map_eq_some_iff]
  constructor
  · rintro ⟨m, accepted, same⟩
    have m_lt : m < size := accept_lt shares.pos v.toNat_lt accepted
    rwa [← injective m_lt small same]
  · intro accepted
    exact ⟨n, accepted, rfl⟩

theorem ncard_isSome {f : UInt32 → Option Nat} (values : ∀ v n, f v = some n → n < size)
    (draws : ∀ n < size, {v | f v = some n}.ncard = each) :
    {v | (f v).isSome}.ncard = size * each := by
  let taken : Finset UInt32 := {v | (f v).isSome}
  have maps : Set.MapsTo f taken ((Finset.range size).map .some : Finset (Option Nat)) := by
    intro v member
    obtain ⟨n, value⟩ := Option.isSome_iff_exists.mp (Finset.mem_filter.mp member).2
    have found := Finset.mem_map_of_mem .some (Finset.mem_range.mpr (values v n value))
    rwa [Function.Embedding.some_apply, ← value] at found
  have count : ∀ n ∈ Finset.range size, Finset.card {v ∈ taken | f v = some n} = each := by
    intro n small
    rw [← draws n (Finset.mem_range.mp small), Set.ncard_eq_toFinset_card', Set.toFinset_ofPred,
      Finset.filter_filter]
    refine congrArg Finset.card (Finset.filter_congr fun v _ => and_iff_right_of_imp fun value => ?_)
    rw [value, Option.isSome_some]
  -- The draws are counted value by value.
  rw [Set.ncard_eq_toFinset_card', Set.toFinset_ofPred, Finset.card_eq_sum_card_fiberwise maps,
    Finset.sum_map]
  refine (Finset.sum_congr rfl count).trans ?_
  rw [Finset.sum_const, Finset.card_range, smul_eq_mul]

end Shares

/-- A pick that scales a raw draw by `accept` is `Uniform` if the values have equal `Shares` of the draws
    and stand one to one for the results. -/
theorem uniform_of_shares {α : Type} {f : Draws α} {results : Set α} {size zone each : Nat}
    (shares : Shares size zone each) (value : Nat → α) (values : Set.BijOn value (Set.Iio size) results)
    (spent : ∀ {σ : Type} [DrawSource σ] {s : σ}, DrawSource.next? s = none →
      f σ s = .error .exhausted)
    (step : ∀ {σ : Type} [DrawSource σ] {s s' : σ} {v : UInt32}, DrawSource.next? s = some (v, s') →
      f σ s =
        match value <$> accept 32 size zone v.toNat with
        | some a => .ok (a, s')
        | none => f σ s') : Uniform f results := by
  have trial := Draws.trial_eq spent step
  have in_range : ∀ v n, accept 32 size zone (UInt32.toNat v) = some n → n < size :=
    fun v n accepted => accept_lt shares.pos v.toNat_lt accepted
  have count : ∀ a ∈ results, {v | f.trial v = some a}.ncard = each := by
    intro a result
    obtain ⟨n, small, rfl⟩ := values.surjOn result
    simp only [trial]
    exact shares.ncard_value values.injOn small
  refine ⟨spent, fun next => ?_, ?_, ?_, ?_⟩
  · rw [step next, trial]
  · intro v a came
    rw [trial, Option.map_eq_map, Option.map_eq_some_iff] at came
    obtain ⟨n, accepted, rfl⟩ := came
    exact values.mapsTo (in_range v n accepted)
  · exact fun a result b result' => (count a result).trans (count b result').symm
  · have all := ncard_isSome in_range fun n small => shares.ncard_accept small
    simp only [trial, Option.map_eq_map, Option.isSome_map, all]
    exact shares.half

/-! ## All picks -/

theorem uniform_number {lo hi : Nat} (ordered : lo ≤ hi) (fits : hi < 2 ^ 32) :
    Uniform (fun _ _ s => number lo hi s) {n | lo ≤ n ∧ n ≤ hi} := by
  have shares := shares_numberZone (Nat.succ_pos (hi - lo)) (by omega)
  have values : Set.BijOn (lo + ·) (Set.Iio (hi - lo + 1)) {n | lo ≤ n ∧ n ≤ hi} := by
    refine ⟨fun k small => ?_, fun j _ k _ same => Nat.add_left_cancel same, fun n inside => ?_⟩
    · have top : k ≤ hi - lo := Nat.lt_succ_iff.mp small
      exact ⟨Nat.le_add_right lo k, Nat.add_le_of_le_sub' ordered top⟩
    · exact ⟨n - lo, Nat.lt_succ_of_le (Nat.sub_le_sub_right inside.2 lo), Nat.add_sub_of_le inside.1⟩
  simp only [number, if_neg (not_lt.mpr ordered)]
  exact uniform_of_shares shares (lo + ·) values drawUntil_of_none drawUntil_of_next

theorem uniform_place {count : Nat} (filled : 1 ≤ count) (fits : count < 2 ^ 32) :
    Uniform (fun _ _ s => place count s) {i | i < count} := by
  have shares := shares_numberZone filled fits.le
  have one_draw : moreDraws count = 0 :=
    Nat.div_eq_of_lt ((Nat.log2_lt (Nat.ne_of_gt filled)).mpr fits)
  simp only [place, if_neg (Nat.ne_of_gt filled), one_draw]
  refine uniform_of_shares shares id (Set.bijOn_id _) drawUntil_of_none fun next => ?_
  rw [drawUntil_of_next next, id_map]
  rfl

theorem exists_unrank {lo hi : Char} {k : Nat} (ordered : lo ≤ hi)
    (small : k < rank hi - rank lo + 1) : ∃ c : Char, (lo ≤ c ∧ c ≤ hi) ∧ rank c = rank lo + k ∧
      c.toNat = unrank (rank lo + k) := by
  have ranks := rank_le_rank.mpr ordered
  have last := rank_lt hi
  have valid : rank lo + k < 0x10F800 := by omega
  obtain ⟨c, place, code⟩ := exists_rank valid
  refine ⟨c, ?_, place, code⟩
  rw [← rank_le_rank, ← rank_le_rank]
  omega

theorem bijOn_unrank {lo hi : Char} (ordered : lo ≤ hi) :
    Set.BijOn (fun k => Char.ofNat (unrank (rank lo + k))) (Set.Iio (rank hi - rank lo + 1))
      {c | lo ≤ c ∧ c ≤ hi} := by
  refine ⟨fun k small => ?_, fun j small k small' same => ?_, fun c inside => ?_⟩
  · obtain ⟨c, between, -, code⟩ := exists_unrank ordered small
    simp only [← code, Char.ofNat_toNat]
    exact between
  · obtain ⟨c, -, place, code⟩ := exists_unrank ordered small
    obtain ⟨d, -, place', code'⟩ := exists_unrank ordered small'
    simp only [← code, ← code', Char.ofNat_toNat] at same
    subst same
    exact Nat.add_left_cancel (place.symm.trans place')
  · have first := rank_le_rank.mpr inside.1
    have last := rank_le_rank.mpr inside.2
    refine ⟨rank c - rank lo, Nat.lt_succ_of_le (Nat.sub_le_sub_right last _), ?_⟩
    simp only [Nat.add_sub_of_le first, unrank_rank, Char.ofNat_toNat]

theorem uniform_char {lo hi : Char} (ordered : lo ≤ hi) :
    Uniform (fun _ _ s => char lo hi s) {c | lo ≤ c ∧ c ≤ hi} := by
  have ranks := rank_le_rank.mpr ordered
  have last := rank_lt hi
  have shares := shares_charZone (Nat.succ_pos (rank hi - rank lo)) (by omega)
  simp only [char, if_neg (not_lt.mpr ranks)]
  refine uniform_of_shares shares _ (bijOn_unrank ordered) (fun spent => ?_) fun {_ _ _ _ v} next => ?_
  · rw [drawUntil_of_none spent]
  · rw [drawUntil_of_next next, codePointOf?]
    cases accepted : accept 32 (rank hi - rank lo + 1) (charZone (rank hi - rank lo + 1)) v.toNat with
    | none => rfl
    | some k =>
        have small := accept_lt (Nat.succ_pos _) v.toNat_lt accepted
        obtain ⟨c, -, -, code⟩ := exists_unrank ordered small
        have valid : c.toNat.isValidChar := c.valid
        simp only [Option.map_eq_map, Option.map_some, ← code, Char.ofNat_toNat, valid, dite_true,
          ofNatAux_toNat valid rfl]

end Pick

/-- The picks of a run are `Uniform`: characters of a `CharacterClass` and of the wildcard, counts of a
    `Repetition`, and places of children. -/
theorem uniform_picks :
    (∀ cls : CharacterClass,
      Uniform (fun _ _ s => Pick.char cls.lo cls.hi s) {c | cls.contains c = true}) ∧
    Uniform (fun _ _ s => Pick.char wildcardBounds.1 wildcardBounds.2 s) {c | 'Z' ≤ c ∧ c ≤ 'a'} ∧
    (∀ (r : Repetition) (extra : UInt32),
      Uniform (fun _ _ s => Pick.number r.min.toNat (r.largest extra) s)
        {n | r.min.toNat ≤ n ∧ n ≤ r.largest extra}) ∧
    ∀ count : Nat, 1 ≤ count → count < 2 ^ 32 →
      Uniform (fun _ _ s => Pick.place count s) {index | index < count} := by
  refine ⟨fun cls => ?_, Pick.uniform_char (by decide), fun r extra => ?_, fun count filled fits =>
    Pick.uniform_place filled fits⟩
  · have contained : {c | cls.contains c = true} = {c | cls.lo ≤ c ∧ c ≤ cls.hi} := by
      ext c
      simp [CharacterClass.contains]
    rw [contained]
    exact Pick.uniform_char cls.bounds.2.2
  · exact Pick.uniform_number (r.min_le_largest extra) (r.largest_lt extra)

theorem uniform_picks_three : 1 ≤ 3 ∧ 3 < 2 ^ 32 ∧
    Uniform (fun _ _ s => Pick.place 3 s) {index | index < 3} :=
  ⟨by decide, by decide, uniform_picks.2.2.2 3 (by decide) (by decide)⟩

end PatternSampler
