import Mathlib
import PatternSampler.Random.Pick

/-! # What picks can come to

A pick answers a value of its range, and every value of its range is what some draws come to. The
second half needs a number for every value: the least one whose product reaches the value's part. Its
low part is below the size of the range, so it lies in every zone that is wide enough for one draw.
-/

namespace PatternSampler

/-! ## Numbers made of draws -/

theorem numbers_of_more (more : Nat) :
    2 ^ (32 * (more + 1 + 1)) = UInt32.size * 2 ^ (32 * (more + 1)) := by
  rw [show 32 * (more + 1 + 1) = 32 + 32 * (more + 1) by omega, pow_add]
  rfl

theorem drawWord_lt {σ : Type} [DrawSource σ] {more n : Nat} {s s' : σ}
    (h : drawWord more s = some (n, s')) : n < 2 ^ (32 * (more + 1)) := by
  induction more generalizing n s s' with
  | zero =>
      simp only [drawWord, Option.map_eq_map, Option.map_eq_some_iff, Prod.mk.injEq] at h
      obtain ⟨⟨v, t⟩, -, rfl, -⟩ := h
      exact v.toNat_lt
  | succ more ih =>
      simp only [drawWord] at h
      split at h
      · simp at h
      · rename_i v t _
        simp only [Option.map_eq_map, Option.map_eq_some_iff, Prod.mk.injEq] at h
        obtain ⟨⟨high, u⟩, rest, rfl, -⟩ := h
        have low : v.toNat < UInt32.size := v.toNat_lt
        have high_lt : high < 2 ^ (32 * (more + 1)) := ih rest
        rw [numbers_of_more]
        dsimp only
        nlinarith

theorem exists_drawWord {more n : Nat} (h : n < 2 ^ (32 * (more + 1))) :
    ∃ draws : List UInt32, ∀ rest, drawWord more (draws ++ rest) = some (n, rest) := by
  induction more generalizing n with
  | zero =>
      refine ⟨[UInt32.ofNat n], fun rest => ?_⟩
      have small : n < 2 ^ 32 := by simpa using h
      simp only [List.singleton_append, drawWord, DrawSource.next?, Option.map_eq_map,
        Option.map_some, UInt32.toNat_ofNat_of_lt' small]
  | succ more ih =>
      have high : n / UInt32.size < 2 ^ (32 * (more + 1)) := by
        rw [numbers_of_more] at h
        exact Nat.div_lt_of_lt_mul h
      obtain ⟨draws, drawn⟩ := ih high
      refine ⟨UInt32.ofNat (n % UInt32.size) :: draws, fun rest => ?_⟩
      have low : n % UInt32.size < UInt32.size := Nat.mod_lt _ (by decide)
      simp only [List.cons_append, drawWord, DrawSource.next?, drawn rest, Option.map_eq_map,
        Option.map_some, UInt32.toNat_ofNat_of_lt' low, Nat.mod_add_div]

theorem drawUntil_of_drawWord {σ α : Type} [DrawSource σ] {more n : Nat} {accept : Nat → Option α}
    {s s' : σ} (drawn : drawWord more s = some (n, s')) : drawUntil more accept s =
      match accept n with
      | some a => .ok (a, s')
      | none => drawUntil more accept s' := by
  rw [drawUntil]
  split
  · rename_i none_left
    cases none_left.symm.trans drawn
  · rename_i n t drawn'
    cases drawn'.symm.trans drawn
    rfl

theorem drawUntil_ok {σ α : Type} [DrawSource σ] {more : Nat} {accept : Nat → Option α} {s s' : σ}
    {a : α} (h : drawUntil more accept s = .ok (a, s')) :
    ∃ n < 2 ^ (32 * (more + 1)), accept n = some a := by
  fun_induction drawUntil more accept s with
  | case1 s none_left => simp at h
  | case2 s n t drawn b accepted =>
      simp only [Except.ok.injEq, Prod.mk.injEq] at h
      exact ⟨n, drawWord_lt drawn, h.1 ▸ accepted⟩
  | case3 s n t drawn rejected ih => exact ih h

theorem exists_drawUntil {α : Type} {more n : Nat} {accept : Nat → Option α} {a : α}
    (small : n < 2 ^ (32 * (more + 1))) (accepted : accept n = some a) :
    ∃ draws : List UInt32, ∀ rest, drawUntil more accept (draws ++ rest) = .ok (a, rest) := by
  obtain ⟨draws, drawn⟩ := exists_drawWord small
  refine ⟨draws, fun rest => ?_⟩
  rw [drawUntil_of_drawWord (drawn rest), accepted]

namespace Pick

/-! ## Zones -/

theorem accept_lt {bits size zone v n : Nat} (pos : 0 < size) (small : v < 2 ^ bits)
    (h : accept bits size zone v = some n) : n < size := by
  simp only [accept, Nat.pow_eq, Option.ite_none_right_eq_some, Option.some.injEq] at h
  rw [← h.2]
  exact Nat.div_lt_of_lt_mul (Nat.mul_lt_mul_of_pos_right small pos)

/-- `accept` takes some raw value for each of the `size` results. -/
theorem exists_accept {bits size zone n : Nat} (fits : size ≤ 2 ^ bits) (wide : size ≤ zone + 1)
    (h : n < size) : ∃ v < 2 ^ bits, accept bits size zone v = some n := by
  have pos : 0 < size := by omega
  -- the least `v` with `n * 2 ^ bits ≤ v * size`
  let v := (n * 2 ^ bits + (size - 1)) / size
  have product : size * v + (n * 2 ^ bits + (size - 1)) % size = n * 2 ^ bits + (size - 1) :=
    Nat.div_add_mod _ _
  have remainder : (n * 2 ^ bits + (size - 1)) % size < size := Nat.mod_lt _ pos
  obtain ⟨low, low_lt, low_eq⟩ : ∃ low < size, v * size = 2 ^ bits * n + low := by
    refine ⟨v * size - n * 2 ^ bits, ?_, ?_⟩ <;> rw [Nat.mul_comm v size]
    · omega
    · rw [Nat.mul_comm (2 ^ bits) n]
      omega
  have low_lt_bits : low < 2 ^ bits := by omega
  refine ⟨v, ?_, ?_⟩
  · have below : 2 ^ bits * n + low < 2 ^ bits * size := by
      calc 2 ^ bits * n + low < 2 ^ bits * n + 2 ^ bits := by omega
        _ = 2 ^ bits * (n + 1) := by ring
        _ ≤ 2 ^ bits * size := Nat.mul_le_mul_left _ h
    rw [← low_eq] at below
    exact Nat.lt_of_mul_lt_mul_right below
  · simp only [accept, Nat.pow_eq, low_eq, Nat.mul_add_mod, Nat.mod_eq_of_lt low_lt_bits]
    rw [if_pos (by omega), Nat.mul_add_div (by positivity), Nat.div_eq_of_lt low_lt_bits, Nat.add_zero]

theorem le_numberZone_succ (bits size : Nat) : size ≤ numberZone bits size + 1 := by
  have : size ≤ size * 2 ^ (bits - 1 - size.log2) := Nat.le_mul_of_pos_right _ (by positivity)
  simp only [numberZone, Nat.pow_eq]
  omega

theorem le_charZone_succ {size : Nat} (fits : size ≤ UInt32.size) : size ≤ charZone size + 1 := by
  have : (UInt32.size - size) % size ≤ UInt32.size - size := Nat.mod_le _ _
  simp only [charZone]
  omega

/-! ## Numbers and places -/

section
variable {σ : Type} [DrawSource σ]

theorem number_bounds {lo hi n : Nat} {s s' : σ} (h : number lo hi s = .ok (n, s')) :
    lo ≤ n ∧ n ≤ hi := by
  simp only [number] at h
  split at h
  · simp at h
  · obtain ⟨v, small, picked⟩ := drawUntil_ok h
    simp only [numberOf?, Option.map_eq_map, Option.map_eq_some_iff] at picked
    obtain ⟨k, accepted, rfl⟩ := picked
    have := accept_lt (by omega) small accepted
    omega

theorem exists_numberOf {lo hi n : Nat} (fits : hi - lo < 2 ^ 32) (ge : lo ≤ n) (le : n ≤ hi) :
    ∃ v < 2 ^ 32, numberOf? lo hi v = some n := by
  have value : n - lo < hi - lo + 1 := by omega
  have narrow : hi - lo + 1 ≤ 2 ^ 32 := by omega
  obtain ⟨v, small, accepted⟩ := exists_accept narrow (le_numberZone_succ 32 _) value
  refine ⟨v, small, ?_⟩
  simp only [numberOf?, accepted, Option.map_eq_map, Option.map_some, Option.some.injEq]
  omega

theorem exists_number {lo hi n : Nat} (fits : hi - lo < 2 ^ 32) (ge : lo ≤ n) (le : n ≤ hi) :
    ∃ draws : List UInt32, ∀ rest, number lo hi (draws ++ rest) = .ok (n, rest) := by
  obtain ⟨v, small, picked⟩ := exists_numberOf fits ge le
  have one_draw : v < 2 ^ (32 * (0 + 1)) := small
  obtain ⟨draws, drawn⟩ := exists_drawUntil one_draw picked
  refine ⟨draws, fun rest => ?_⟩
  rw [number, if_neg (by omega), drawn rest]

theorem place_lt {count n : Nat} {s s' : σ} (h : place count s = .ok (n, s')) : n < count := by
  simp only [place] at h
  split at h
  · simp at h
  · obtain ⟨v, small, picked⟩ := drawUntil_ok h
    exact accept_lt (by omega) small picked

theorem exists_placeOf {count n : Nat} (h : n < count) :
    ∃ v < 2 ^ (32 * (moreDraws count + 1)), placeOf? (moreDraws count) count v = some n := by
  have fits : count ≤ 2 ^ (32 * (moreDraws count + 1)) := by
    have log_lt : count.log2 < 32 * (moreDraws count + 1) := by
      have := Nat.div_add_mod count.log2 32
      have := Nat.mod_lt count.log2 (show 0 < 32 by omega)
      simp only [moreDraws]
      omega
    exact ((Nat.log2_lt (by omega)).mp log_lt).le
  exact exists_accept fits (le_numberZone_succ _ count) h

theorem exists_place {count n : Nat} (h : n < count) :
    ∃ draws : List UInt32, ∀ rest, place count (draws ++ rest) = .ok (n, rest) := by
  obtain ⟨v, small, picked⟩ := exists_placeOf h
  obtain ⟨draws, drawn⟩ := exists_drawUntil small picked
  refine ⟨draws, fun rest => ?_⟩
  rw [place, if_neg (by omega), drawn rest]

end

/-! ## Characters -/

theorem toNat_valid (c : Char) : c.toNat < 0xD800 ∨ 0xDFFF < c.toNat ∧ c.toNat < 0x110000 := by
  simpa [UInt32.isValidChar, Nat.isValidChar] using c.valid

theorem rank_le_rank {a b : Char} : rank a ≤ rank b ↔ a ≤ b := by
  have := toNat_valid a
  have := toNat_valid b
  have le_iff : a ≤ b ↔ a.toNat ≤ b.toNat := Iff.rfl
  rw [le_iff]
  unfold rank gapStart gapSize
  split <;> split <;> omega

theorem rank_lt (c : Char) : rank c < 0x10F800 := by
  have := toNat_valid c
  unfold rank gapStart gapSize
  split <;> omega

theorem unrank_rank (c : Char) : unrank (rank c) = c.toNat := by
  have := toNat_valid c
  unfold unrank rank gapStart gapSize
  split <;> split <;> omega

theorem exists_rank {n : Nat} (h : n < 0x10F800) : ∃ c : Char, rank c = n ∧ c.toNat = unrank n := by
  have valid : (unrank n).isValidChar := by
    unfold unrank gapStart gapSize Nat.isValidChar
    split <;> omega
  have toNat_eq : (Char.ofNatAux (unrank n) valid).toNat = unrank n := by
    simp [Char.ofNatAux, Char.toNat]
  refine ⟨Char.ofNatAux (unrank n) valid, ?_, toNat_eq⟩
  rw [rank, toNat_eq]
  unfold unrank gapStart gapSize
  split <;> split <;> omega

theorem ofNatAux_toNat {c : Char} {n : Nat} (valid : n.isValidChar) (h : c.toNat = n) :
    Char.ofNatAux n valid = c := by
  subst h
  apply Char.ext
  exact UInt32.toNat_inj.mp (by simp [Char.ofNatAux])

theorem codePointOf_bounds {lo hi : Char} {v n : Nat} (ordered : rank lo ≤ rank hi) (small : v < 2 ^ 32)
    (picked : codePointOf? lo hi v = some n) : ∃ c : Char, c.toNat = n ∧ lo ≤ c ∧ c ≤ hi := by
  simp only [codePointOf?, Option.map_eq_map, Option.map_eq_some_iff] at picked
  obtain ⟨k, accepted, code⟩ := picked
  have k_lt := accept_lt (by omega) small accepted
  have := rank_lt hi
  obtain ⟨c, c_rank, c_code⟩ := exists_rank (show rank lo + k < 0x10F800 by omega)
  refine ⟨c, c_code.trans code, ?_⟩
  rw [← rank_le_rank, ← rank_le_rank]
  omega

theorem exists_codePointOf {lo hi c : Char} (ge : lo ≤ c) (le : c ≤ hi) :
    ∃ v < 2 ^ 32, codePointOf? lo hi v = some c.toNat := by
  rw [← rank_le_rank] at ge le
  have := rank_lt hi
  have value : rank c - rank lo < rank hi - rank lo + 1 := by omega
  have narrow : rank hi - rank lo + 1 ≤ 2 ^ 32 := by omega
  obtain ⟨v, small, accepted⟩ := exists_accept narrow (le_charZone_succ narrow) value
  refine ⟨v, small, ?_⟩
  simp only [codePointOf?, accepted, Option.map_eq_map, Option.map_some, Option.some.injEq]
  rw [← unrank_rank c]
  congr 1
  omega

theorem char_bounds {σ : Type} [DrawSource σ] {lo hi c : Char} {s s' : σ}
    (h : char lo hi s = .ok (c, s')) : lo ≤ c ∧ c ≤ hi := by
  simp only [char] at h
  split at h
  · simp at h
  · rename_i ordered
    split at h
    · simp at h
    · rename_i n t drawn
      split at h
      · rename_i valid
        simp only [Except.ok.injEq, Prod.mk.injEq] at h
        obtain ⟨v, small, picked⟩ := drawUntil_ok drawn
        obtain ⟨d, d_code, bounds⟩ := codePointOf_bounds (not_lt.mp ordered) small picked
        have same : c = d := h.1 ▸ ofNatAux_toNat valid d_code
        rw [same]
        exact bounds
      · simp at h

theorem exists_char {lo hi c : Char} (ge : lo ≤ c) (le : c ≤ hi) :
    ∃ draws : List UInt32, ∀ rest, char lo hi (draws ++ rest) = .ok (c, rest) := by
  obtain ⟨v, small, picked⟩ := exists_codePointOf ge le
  have ordered : rank lo ≤ rank hi := rank_le_rank.mpr (ge.trans le)
  have one_draw : v < 2 ^ (32 * (0 + 1)) := small
  obtain ⟨draws, drawn⟩ := exists_drawUntil one_draw picked
  have valid : c.toNat.isValidChar := c.valid
  refine ⟨draws, fun rest => ?_⟩
  rw [char, if_neg (by omega), drawn rest]
  simp only [valid, dite_true, ofNatAux_toNat valid rfl]

end Pick

end PatternSampler
