import Mathlib
import PatternSampler.Proofs.Generator.Unfailing

/-! # Samples of one source

Samples are drawn one after the other, each going on with the source that the one before it has left. So
the first samples do not depend on how many come after them, and the first one of all is what is drawn
alone. Samples of a tree in its frame are what its pieces draw, so as many copies of the pieces side by
side draw the samples in a row.
-/

namespace PatternSampler

namespace Subtree

variable {σ : Type} [DrawSource σ] {extra : UInt32} {ts : List Subtree}

theorem drawMany_done (count : Nat) (done : List String) (s : σ) :
    drawMany extra ts count done s =
      (fun (texts, s) => (texts ++ done, s)) <$> drawMany extra ts count [] s := by
  induction count generalizing done s with
  | zero => rfl
  | succ count ih =>
      rw [drawMany, drawMany]
      cases draw extra ts s with
      | error e => rfl
      | ok result =>
          dsimp only
          rw [ih (result.1 :: done), ih [result.1], ← comp_map]
          simp [Function.comp_def]

end Subtree

namespace Generator

variable {σ : Type} [DrawSource σ] {g : Generator} {ts : List Subtree}

/-! ## One after the other -/

theorem samplesFrom_zero (found : g.tree.subtrees = .ok ts) (s : σ) :
    g.samplesFrom 0 s = .ok ([], s) := by
  rw [samplesFrom, found]
  rfl

theorem samplesFrom_succ (count : Nat) (s : σ) : g.samplesFrom (count + 1) s = do
    let (text, s) ← g.drawFrom s
    let (texts, s) ← g.samplesFrom count s
    return (text :: texts, s) := by
  simp only [samplesFrom, drawFrom]
  cases g.tree.subtrees with
  | error e => rfl
  | ok ts =>
      dsimp only
      rw [Subtree.drawMany]
      cases Subtree.draw g.extra ts s with
      | error e => rfl
      | ok result =>
          dsimp only
          rw [ok_then, Subtree.drawMany_done count [result.1]]
          cases Subtree.drawMany g.extra ts count [] result.2 with
          | error e => rfl
          | ok many => simp

/-- `samplesFrom` goes on with the source that the samples so far have left. -/
theorem samplesFrom_add (found : g.tree.subtrees = .ok ts) (k m : Nat) (s : σ) :
    g.samplesFrom (k + m) s = do
      let (texts, s) ← g.samplesFrom k s
      let (more, s) ← g.samplesFrom m s
      return (texts ++ more, s) := by
  induction k generalizing s with
  | zero =>
      rw [samplesFrom_zero found, Nat.zero_add]
      exact (bind_pure _).symm
  | succ k ih =>
      rw [Nat.succ_add, samplesFrom_succ, samplesFrom_succ]
      simp only [ih, bind_assoc, pure_bind, List.cons_append]

theorem length_samplesFrom {n : Nat} {texts : List String} {s s' : σ}
    (drawn : g.samplesFrom n s = .ok (texts, s')) : texts.length = n := by
  cases found : g.tree.subtrees with
  | error e =>
      rw [samplesFrom, found] at drawn
      cases drawn
  | ok ts =>
      induction n generalizing texts s with
      | zero =>
          rw [samplesFrom_zero found] at drawn
          cases drawn
          rfl
      | succ n ih =>
          rw [samplesFrom_succ] at drawn
          obtain ⟨⟨text, between⟩, -, drawn⟩ := then_eq_ok.mp drawn
          obtain ⟨⟨more, after⟩, others, same⟩ := then_eq_ok.mp drawn
          cases same
          rw [List.length_cons, ih others]

/-! ## From a seed -/

variable {k n : Nat} {seed : UInt64} {texts : List String}

theorem samples_eq_ok : g.samples n seed = .ok texts ↔
    ∃ s, g.samplesFrom n (Seeded.ofSeed seed) = .ok (texts, s) := by
  simp [samples, map_eq_ok]

theorem length_samples (drawn : g.samples n seed = .ok texts) : texts.length = n := by
  obtain ⟨s, drawn⟩ := samples_eq_ok.mp drawn
  exact length_samplesFrom drawn

/-- `samples` of a smaller count are the first ones of a larger count. -/
theorem samples_take (found : g.tree.subtrees = .ok ts) (le : k ≤ n)
    (drawn : g.samples n seed = .ok texts) : g.samples k seed = .ok (texts.take k) := by
  obtain ⟨m, rfl⟩ := Nat.exists_eq_add_of_le le
  obtain ⟨s, drawn⟩ := samples_eq_ok.mp drawn
  rw [samplesFrom_add found] at drawn
  obtain ⟨⟨first, between⟩, drawn_first, drawn⟩ := then_eq_ok.mp drawn
  obtain ⟨⟨more, after⟩, -, same⟩ := then_eq_ok.mp drawn
  cases same
  have cut : (first ++ more).take k = first := List.take_left' (length_samplesFrom drawn_first)
  exact samples_eq_ok.mpr ⟨between, cut.symm ▸ drawn_first⟩

theorem exists_generate_of_samples (drawn : g.samples (n + 1) seed = .ok texts) :
    ∃ text, g.generate seed = .ok text ∧ texts.head? = some text := by
  obtain ⟨s, drawn⟩ := samples_eq_ok.mp drawn
  rw [samplesFrom_succ] at drawn
  obtain ⟨⟨text, between⟩, drawn_first, drawn⟩ := then_eq_ok.mp drawn
  obtain ⟨⟨more, after⟩, -, same⟩ := then_eq_ok.mp drawn
  cases same
  exact ⟨text, map_eq_ok.mpr ⟨_, drawn_first, rfl⟩, rfl⟩

/-! ## Faults -/

variable {t : Tree} {extra : UInt32} {e : Fault}

theorem drawFrom_fault {σ : Type} [DrawSource σ] {s : σ} (obtained : t.Obtained)
    (failed : (⟨t, extra⟩ : Generator).drawFrom s = .error e) : e = .exhausted := by
  obtain ⟨tops, found, -⟩ := obtained.built.exists_subtrees
  simp only [drawFrom, found] at failed
  exact (Subtree.unfailing_runAll _ extra false tops "").fault failed

theorem generate_fault (obtained : t.Obtained)
    (failed : (⟨t, extra⟩ : Generator).generate seed = .error e) : e = .exhausted :=
  drawFrom_fault obtained (map_eq_error.mp failed)

/-- `samplesFrom` fails as `drawFrom` does at the first sample that cannot be drawn. -/
theorem exists_of_samplesFrom_error {σ : Type} [DrawSource σ] (found : g.tree.subtrees = .ok ts) {n : Nat}
    {s : σ} (failed : g.samplesFrom n s = .error e) :
    ∃ k < n, ∃ texts s', g.samplesFrom k s = .ok (texts, s') ∧ g.drawFrom s' = .error e := by
  induction n generalizing s with
  | zero =>
      rw [samplesFrom_zero found] at failed
      cases failed
  | succ n ih =>
      rw [samplesFrom_succ] at failed
      rcases then_eq_error.mp failed with here | ⟨⟨text, between⟩, drawn, failed⟩
      · exact ⟨0, n.succ_pos, [], s, samplesFrom_zero found s, here⟩
      · rcases then_eq_error.mp failed with later | ⟨_, -, failed⟩
        · obtain ⟨k, lt, texts, after, before, there⟩ := ih later
          refine ⟨k + 1, Nat.succ_lt_succ lt, text :: texts, after, ?_, there⟩
          simp only [samplesFrom_succ, drawn, ok_then, before]
          rfl
        · cases failed

theorem samples_fault (obtained : t.Obtained) {count : Nat}
    (failed : (⟨t, extra⟩ : Generator).samples count seed = .error e) : e = .exhausted := by
  obtain ⟨tops, found, -⟩ := obtained.built.exists_subtrees
  obtain ⟨k, -, texts, s, -, there⟩ := exists_of_samplesFrom_error found (map_eq_error.mp failed)
  exact drawFrom_fault obtained there

end Generator

/-! ## Copies side by side -/

namespace Sprout

variable {σ : Type} [DrawSource σ] {extra : UInt32} {ss : List Sprout}

theorem draw_copies (wf : AllWellFormed ss) (n : Nat) (s : σ) :
    draw extra (List.replicate n ss).flatten s =
      (fun (texts, s) => (String.join texts, s)) <$>
        (⟨Tree.framed ss, extra⟩ : Generator).samplesFrom n s := by
  induction n generalizing s with
  | zero =>
      rw [Generator.samplesFrom_zero (Tree.subtrees_framed wf)]
      rfl
  | succ n ih =>
      rw [List.replicate_succ, List.flatten_cons, draw_append, Generator.samplesFrom_succ,
        Generator.drawFrom_framed wf]
      simp only [ih, map_eq_pure_bind, bind_assoc, pure_bind, String.join_cons]

end Sprout

/-- `generate` over copies of some pieces in one frame is the `samples` over one copy in its frame, joined.
    -/
theorem Generator.generate_copies {extra : UInt32} {ss : List Sprout} {n : Nat}
    (wf : Sprout.AllWellFormed ss) (wf' : Sprout.AllWellFormed (List.replicate n ss).flatten)
    (seed : UInt64) : (⟨Tree.framed (List.replicate n ss).flatten, extra⟩ : Generator).generate seed =
      String.join <$> (⟨Tree.framed ss, extra⟩ : Generator).samples n seed := by
  rw [generate, drawFrom_framed wf', Sprout.draw_copies wf, samples, ← comp_map, ← comp_map]
  rfl

end PatternSampler
