import Mathlib

/-! # Lists, arrays and digits

Facts that are not about patterns.
-/

namespace PatternSampler

variable {α : Type}

/-! ## Lists -/

theorem head?_append_eq_some {xs ys : List α} {a : α} (first : (xs ++ ys).head? = some a) :
    xs.head? = some a ∨ ys.head? = some a := by
  rw [List.head?_append, Option.or_eq_some_iff] at first
  exact first.imp_right And.right

theorem forall_head_cons {P : α → Prop} {x : α} {xs : List α} (h : P x) : ∀ y ∈ (x :: xs).head?, P y := by
  rintro y ⟨⟩
  exact h

theorem exists_run (p : α → Bool) (xs : List α) :
    ∃ run rest, xs = run ++ rest ∧ (∀ x ∈ run, p x) ∧ ∀ x ∈ rest.head?, p x = false := by
  induction xs with
  | nil => exact ⟨[], [], rfl, nofun, nofun⟩
  | cons x xs ih =>
      cases holds : p x with
      | false => exact ⟨[], x :: xs, rfl, nofun, by simpa using holds⟩
      | true =>
          obtain ⟨run, rest, rfl, all, stop⟩ := ih
          exact ⟨x :: run, rest, rfl, List.forall_mem_cons.mpr ⟨holds, all⟩, stop⟩

theorem run_append_inj {p : α → Prop} {run run' xs ys : List α} {c d : α} (inside : ∀ a ∈ run, p a)
    (inside' : ∀ a ∈ run', p a) (outside : ¬p c) (outside' : ¬p d)
    (same : run ++ c :: xs = run' ++ d :: ys) : run = run' ∧ c = d ∧ xs = ys := by
  induction run generalizing run' with
  | nil =>
      cases run' with
      | nil => simpa using same
      | cons a run' => exact absurd ((List.cons.inj same).1 ▸ inside' a List.mem_cons_self) outside
  | cons a run ih =>
      cases run' with
      | nil => exact absurd ((List.cons.inj same).1 ▸ inside a List.mem_cons_self) outside'
      | cons b run' =>
          obtain ⟨rfl, later⟩ := List.cons.inj same
          obtain ⟨rfl, rest⟩ := ih (fun a member => inside a (.tail _ member))
            (fun a member => inside' a (.tail _ member)) later
          exact ⟨rfl, rest⟩

theorem intercalate_cons (a : α) (x : List α) (xs : List (List α)) :
    [a].intercalate (x :: xs) = x ++ xs.flatMap (a :: ·) := by
  induction xs generalizing x with
  | nil => simp
  | cons y xs ih => simp [List.intercalate_cons_cons, ih]

theorem intercalate_concat (a : α) (xs : List (List α)) (x : List α) :
    [a].intercalate (xs ++ [x]) = xs.flatMap (· ++ [a]) ++ x := by
  induction xs with
  | nil => simp
  | cons y xs ih => simp [List.intercalate_cons_of_ne_nil, ih]

/-! ## Arrays -/

theorem getElem?_push_of_old {xs : Array α} {i : Nat} {a b : α} (h : xs[i]? = some a) :
    (xs.push b)[i]? = some a := by
  have lt : i < xs.size := (Array.getElem?_eq_some_iff.mp h).1
  rw [Array.getElem?_push, if_neg lt.ne, h]

theorem push_cases {xs : Array α} {i : Nat} {a b : α} (h : (xs.push b)[i]? = some a) :
    i = xs.size ∧ a = b ∨ xs[i]? = some a := by
  rw [Array.getElem?_push] at h
  split at h
  · rename_i last
    exact .inl ⟨last, (Option.some.inj h).symm⟩
  · exact .inr h

theorem pairwise_push {r : α → α → Prop} {xs : Array α} {a : α} (h : xs.toList.Pairwise r)
    (below : ∀ b ∈ xs, r b a) : (xs.push a).toList.Pairwise r := by
  rw [Array.toList_push, List.pairwise_append]
  refine ⟨h, List.pairwise_singleton _ _, fun b member c last => ?_⟩
  rw [List.mem_singleton.mp last]
  exact below b (Array.mem_def.mpr member)

theorem count_of_increasing {xs : Array Nat} (h : xs.toList.Pairwise (· < ·)) (n : Nat) :
    xs.count n = if n ∈ xs then 1 else 0 := by
  have distinct : xs.toList.Nodup := h.imp fun lt => lt.ne
  rw [← Array.count_toList, distinct.count]
  simp only [Array.mem_toList_iff]

/-! ## Digits -/

theorem isDigit_of_mem_toString {n : Nat} : ∀ c ∈ (toString n).toList, c.isDigit := by
  intro c member
  rw [Nat.toString_eq_ofList_toDigits, String.toList_ofList] at member
  exact Nat.isDigit_of_mem_toDigits (by decide) (by decide) member

theorem head_toDigits_ne {n : Nat} (pos : 0 < n) : (Nat.toDigits 10 n).head? ≠ some '0' := by
  induction n using Nat.strongRecOn with
  | ind n ih =>
      by_cases small : n < 10
      · rw [Nat.toDigits_of_lt_base small]
        interval_cases n <;> decide
      · rw [Nat.toDigits_of_base_le (by norm_num) (not_lt.mp small),
          List.head?_append_of_ne_nil _ Nat.toDigits_ne_nil]
        exact ih (n / 10) (by omega) (by omega)

end PatternSampler
