import Mathlib
import PatternSampler.Assertion
import PatternSampler.Proofs.Generator.Samples

/-! # Samples are always fresh

Settings draw all samples anew, and checks that pass leave everything as it is. So what is held at any
point of a chain depends on nothing but the last settings before it, and a check speaks of those samples
alone. Since they are in the order of their seeds, the first one at fault is the one of the smallest seed.
-/

namespace PatternSampler

namespace Assertion

/-! ## Seeds of a range -/

variable {first stop seed : UInt64}

theorem toNat_add_ofNat {n : Nat} (lt : n < stop.toNat - first.toNat) :
    (first + UInt64.ofNat n).toNat = first.toNat + n := by
  have bound : stop.toNat < UInt64.size := stop.toNat_lt
  rw [UInt64.toNat_add, UInt64.toNat_ofNat_of_lt' (by omega), Nat.mod_eq_of_lt]
  exact lt_of_lt_of_le (by omega : _ < stop.toNat) bound.le

theorem mem_seedsBetween : seed ∈ seedsBetween first stop ↔ first ≤ seed ∧ seed < stop := by
  simp only [seedsBetween, List.mem_map, List.mem_range, UInt64.le_iff_toNat_le, UInt64.lt_iff_toNat_lt]
  constructor
  · rintro ⟨n, lt, rfl⟩
    rw [toNat_add_ofNat lt]
    omega
  · rintro ⟨le, lt⟩
    have inside : seed.toNat - first.toNat < stop.toNat - first.toNat := by omega
    refine ⟨seed.toNat - first.toNat, inside, UInt64.toNat_inj.mp ?_⟩
    rw [toNat_add_ofNat inside, Nat.add_sub_cancel' le]

theorem pairwise_seedsBetween : (seedsBetween first stop).Pairwise (· < ·) := by
  rw [seedsBetween, List.pairwise_map]
  refine List.pairwise_lt_range.imp_of_mem fun {n m} in_range in_range' lt => ?_
  rw [UInt64.lt_iff_toNat_lt, toNat_add_ofNat (List.mem_range.mp in_range),
    toNat_add_ofNat (List.mem_range.mp in_range')]
  exact Nat.add_lt_add_left lt _

/-! ## Drawing -/

variable {g : Generator} {seeds : List UInt64} {samples : List (UInt64 × String)} {a : Assertion}

theorem sampleOf_eq_ok {s : UInt64 × String} :
    sampleOf g seed = .ok s ↔ ∃ text, g.generate seed = .ok text ∧ (seed, text) = s := by
  cases generated : g.generate seed <;> simp [sampleOf, generated]

theorem sampleOf_eq_error {f : CheckFailure} :
    sampleOf g seed = .error f ↔ ∃ e, g.generate seed = .error e ∧ .fault e = f := by
  cases generated : g.generate seed <;> simp [sampleOf, generated]

theorem samples_of_mapM (drawn : seeds.mapM (sampleOf g) = .ok samples) :
    samples.map (·.1) = seeds ∧ ∀ s ∈ samples, g.generate s.1 = .ok s.2 := by
  induction seeds generalizing samples with
  | nil =>
      cases drawn
      exact ⟨rfl, nofun⟩
  | cons seed seeds ih =>
      rw [List.mapM_cons] at drawn
      obtain ⟨s, first, drawn⟩ := then_eq_ok.mp drawn
      obtain ⟨others, rest, same⟩ := then_eq_ok.mp drawn
      cases same
      obtain ⟨text, generated, rfl⟩ := sampleOf_eq_ok.mp first
      obtain ⟨seeds_of, texts_of⟩ := ih rest
      exact ⟨by rw [List.map_cons, seeds_of], List.forall_mem_cons.mpr ⟨generated, texts_of⟩⟩

theorem exists_fault_of_mapM {f : CheckFailure} (failed : seeds.mapM (sampleOf g) = .error f) :
    ∃ seed ∈ seeds, ∃ e, g.generate seed = .error e ∧ .fault e = f := by
  induction seeds with
  | nil => cases failed
  | cons seed seeds ih =>
      rw [List.mapM_cons, then_eq_error] at failed
      rcases failed with first | ⟨s, -, failed⟩
      · exact ⟨seed, List.mem_cons_self, sampleOf_eq_error.mp first⟩
      · rcases then_eq_error.mp failed with others | ⟨_, -, failed⟩
        · obtain ⟨seed', member, there⟩ := ih others
          exact ⟨seed', List.mem_cons_of_mem seed member, there⟩
        · cases failed

theorem draw_eq_ok : draw g first stop = .ok a ↔
    ∃ samples, (seedsBetween first stop).mapM (sampleOf g) = .ok samples ∧
      ⟨g, first, stop, samples⟩ = a := by
  rw [draw, then_eq_ok]
  exact exists_congr fun samples => and_congr_right fun _ => ⟨Except.ok.inj, congrArg _⟩

/-- There are too few draws for the text of some seed of a range. -/
def RunsOut (t : Tree) (extra : UInt32) (range : UInt64 × UInt64) : Prop :=
  ∃ seed, range.1 ≤ seed ∧ seed < range.2 ∧ (⟨t, extra⟩ : Generator).generate seed = .error .exhausted

theorem draw_fault {t : Tree} (obtained : t.Obtained) {extra : UInt32} {f : CheckFailure}
    (failed : draw ⟨t, extra⟩ first stop = .error f) :
    f = .fault .exhausted ∧ RunsOut t extra (first, stop) := by
  rcases then_eq_error.mp failed with drawn | ⟨_, -, failed⟩
  · obtain ⟨seed, member, e, generated, rfl⟩ := exists_fault_of_mapM drawn
    obtain ⟨le, lt⟩ := mem_seedsBetween.mp member
    obtain rfl := Generator.generate_fault obtained generated
    exact ⟨rfl, seed, le, lt, generated⟩
  · cases failed

/-! ## Fresh samples -/

/-- An assertion holds what is drawn from a tree for each seed of a range, in increasing order. -/
structure Fresh (a : Assertion) (t : Tree) (extra : UInt32) (range : UInt64 × UInt64) : Prop where
  settings : a.generator = ⟨t, extra⟩ ∧ (a.first, a.stop) = range
  drawn : ∀ seed, range.1 ≤ seed → seed < range.2 →
    ∃ text, (⟨t, extra⟩ : Generator).generate seed = .ok text
  held : ∀ seed text, (seed, text) ∈ a.samples ↔
    range.1 ≤ seed ∧ seed < range.2 ∧ (⟨t, extra⟩ : Generator).generate seed = .ok text
  ascending : a.samples.Pairwise (·.1 < ·.1)

variable {t : Tree} {extra : UInt32} {range : UInt64 × UInt64}

theorem fresh_of_draw (drawn : draw ⟨t, extra⟩ range.1 range.2 = .ok a) : a.Fresh t extra range := by
  obtain ⟨samples, each, rfl⟩ := draw_eq_ok.mp drawn
  obtain ⟨seeds_of, texts_of⟩ := samples_of_mapM each
  have inside {seed : UInt64} {text : String} (member : (seed, text) ∈ samples) :
      range.1 ≤ seed ∧ seed < range.2 ∧ (⟨t, extra⟩ : Generator).generate seed = .ok text := by
    rw [← and_assoc, ← mem_seedsBetween, ← seeds_of]
    exact ⟨List.mem_map_of_mem member, texts_of (seed, text) member⟩
  have held_at {seed : UInt64} (le : range.1 ≤ seed) (lt : seed < range.2) :
      ∃ text, (seed, text) ∈ samples := by
    have member : seed ∈ samples.map (·.1) := seeds_of ▸ mem_seedsBetween.mpr ⟨le, lt⟩
    obtain ⟨⟨seed, text⟩, held, rfl⟩ := List.mem_map.mp member
    exact ⟨text, held⟩
  refine ⟨⟨rfl, rfl⟩, fun seed le lt => ?_, fun seed text => ⟨inside, ?_⟩, ?_⟩
  · obtain ⟨text, member⟩ := held_at le lt
    exact ⟨text, (inside member).2.2⟩
  · rintro ⟨le, lt, generated⟩
    obtain ⟨text', member⟩ := held_at le lt
    have same : text = text' := Except.ok.inj (generated.symm.trans (inside member).2.2)
    rwa [same]
  · rw [← List.pairwise_map, seeds_of]
    exact pairwise_seedsBetween

/-! ## Checks of each sample -/

/-- What comes of a check of each sample by itself. It fails if a sample is held that is not `good`, and
    then it names the one of the smallest seed. -/
structure Judges (a : Assertion) (good : String → Prop) (failure : UInt64 → String → CheckFailure)
    (outcome : Except CheckFailure Assertion) : Prop where
  fails_iff : (∃ f, outcome = .error f) ↔ ∃ seed text, (seed, text) ∈ a.samples ∧ ¬ good text
  names : ∀ f, outcome = .error f → ∃ seed text, (seed, text) ∈ a.samples ∧ ¬ good text ∧
    (∀ seed' text', (seed', text') ∈ a.samples → ¬ good text' → seed ≤ seed') ∧ f = failure seed text
  passes : ∀ b, outcome = .ok b → b = a

section

variable {failure? : UInt64 → String → Option CheckFailure} {b : Assertion} {f : CheckFailure}

theorem firstFailure_eq : a.firstFailure failure? =
    match a.samples.findSome? fun s => failure? s.1 s.2 with
    | some f => .error f
    | none => .ok a := rfl

theorem firstFailure_eq_ok : a.firstFailure failure? = .ok b ↔
    (∀ s ∈ a.samples, failure? s.1 s.2 = none) ∧ a = b := by
  rw [firstFailure_eq, ← List.findSome?_eq_none_iff]
  cases a.samples.findSome? fun s => failure? s.1 s.2 <;> simp

theorem firstFailure_eq_error : a.firstFailure failure? = .error f ↔
    ∃ before s after, a.samples = before ++ s :: after ∧ failure? s.1 s.2 = some f ∧
      ∀ r ∈ before, failure? r.1 r.2 = none := by
  rw [firstFailure_eq, ← List.findSome?_eq_some_iff]
  cases a.samples.findSome? fun s => failure? s.1 s.2 <;> simp

end

theorem le_of_not_before {before after : List (UInt64 × String)} {s r : UInt64 × String}
    (ascending : (before ++ s :: after).Pairwise (·.1 < ·.1)) (member : r ∈ before ++ s :: after)
    (behind : r ∉ before) : s.1 ≤ r.1 := by
  rcases List.mem_cons.mp ((List.mem_append.mp member).resolve_left behind) with rfl | later
  · exact UInt64.le_refl _
  · exact UInt64.le_of_lt (List.rel_of_pairwise_cons (List.pairwise_append.mp ascending).2.1 later)

/-- `firstFailure` answers for the smallest seed at fault, since `samples` stand in the order of their
    seeds. -/
theorem judges_firstFailure (ascending : a.samples.Pairwise (·.1 < ·.1)) (good : String → Prop)
    [DecidablePred good] (failure : UInt64 → String → CheckFailure) :
    a.Judges good failure
      (a.firstFailure fun seed text => if good text then none else some (failure seed text)) := by
  refine ⟨⟨fun ⟨f, failed⟩ => ?_, fun ⟨seed, text, member, bad⟩ => ?_⟩, fun f failed => ?_,
    fun b passed => (firstFailure_eq_ok.mp passed).2.symm⟩
  · obtain ⟨before, ⟨seed, text⟩, after, split, here, -⟩ := firstFailure_eq_error.mp failed
    exact ⟨seed, text, by simp [split], (Option.ite_none_left_eq_some.mp here).1⟩
  · cases outcome : a.firstFailure _ with
    | error f => exact ⟨f, rfl⟩
    | ok b =>
        have fine := (firstFailure_eq_ok.mp outcome).1 _ member
        rw [if_neg bad] at fine
        cases fine
  · obtain ⟨before, ⟨seed, text⟩, after, split, here, earlier⟩ := firstFailure_eq_error.mp failed
    obtain ⟨bad, same⟩ := Option.ite_none_left_eq_some.mp here
    refine ⟨seed, text, by simp [split], bad, fun seed' text' member' bad' => ?_,
      (Option.some.inj same).symm⟩
    rw [split] at member' ascending
    refine le_of_not_before ascending member' fun first => ?_
    have fine := earlier _ first
    rw [if_neg bad'] at fine
    cases fine

theorem isDeterministic_of_fresh (fresh : a.Fresh t extra range) : a.isDeterministic = .ok a := by
  rw [isDeterministic, firstFailure_eq_ok]
  refine ⟨fun (seed, text) member => ?_, rfl⟩
  obtain ⟨-, -, generated⟩ := (fresh.held seed text).mp member
  rw [fresh.settings.1]
  simp only [generated, if_true]

/-! ## Texts that are looked for -/

/-- What comes of looking for some texts among the samples. It fails if one of them is not held, and then
    it names the first of these. -/
structure Seeks (a : Assertion) (expected : List String) (outcome : Except CheckFailure Assertion) :
    Prop where
  fails_iff : (∃ f, outcome = .error f) ↔ ∃ value ∈ expected, ∀ seed, (seed, value) ∉ a.samples
  names : ∀ f, outcome = .error f → ∃ before value after, expected = before ++ value :: after ∧
    (∀ earlier ∈ before, ∃ seed, (seed, earlier) ∈ a.samples) ∧ (∀ seed, (seed, value) ∉ a.samples) ∧
    f = .uncovered value a.first a.stop a.seen
  passes : ∀ b, outcome = .ok b → b = a

theorem contains_samples {value : String} :
    (a.samples.map (·.2)).contains value ↔ ∃ seed, (seed, value) ∈ a.samples := by
  simp

theorem seeks_covers (a : Assertion) (expected : List String) : a.Seeks expected (a.covers expected) := by
  rw [covers]
  cases found : expected.find? fun value => !(a.samples.map (·.2)).contains value with
  | none =>
      refine ⟨⟨nofun, ?_⟩, nofun, fun b passed => (Except.ok.inj passed).symm⟩
      rintro ⟨value, member, missing⟩
      have held := List.find?_eq_none.mp found value member
      rw [Bool.not_eq_true', Bool.not_eq_false, contains_samples] at held
      obtain ⟨seed, held⟩ := held
      exact absurd held (missing seed)
  | some value =>
      obtain ⟨lacks, before, after, split, earlier⟩ := List.find?_eq_some_iff_append.mp found
      have missing (seed : UInt64) : (seed, value) ∉ a.samples := by
        rw [Bool.not_eq_true', ← Bool.not_eq_true, contains_samples] at lacks
        exact fun held => lacks ⟨seed, held⟩
      refine ⟨⟨fun _ => ⟨value, by simp [split], missing⟩, fun _ => ⟨_, rfl⟩⟩, fun f failed => ?_, nofun⟩
      cases failed
      refine ⟨before, value, after, split, fun early member => ?_, missing, rfl⟩
      have held := earlier early member
      rwa [Bool.not_not, contains_samples] at held

end Assertion

/-! ## Chains -/

namespace Check

/-- The setting of a configuration, if the check is one. -/
def extra? : Check → Option UInt32
  | extra n => some n
  | _ => none

/-- The setting of a range of seeds, if the check is one. -/
def seeds? : Check → Option (UInt64 × UInt64)
  | seeds first stop => some (first, stop)
  | _ => none

def lastExtra (cs : List Check) : UInt32 := (cs.filterMap extra?).getLast?.getD defaultExtra

def lastSeeds (cs : List Check) : UInt64 × UInt64 :=
  (cs.filterMap seeds?).getLast?.getD Assertion.defaultSeeds

theorem lastExtra_concat (cs : List Check) (c : Check) :
    lastExtra (cs ++ [c]) = c.extra?.getD (lastExtra cs) := by
  cases set : c.extra? <;> simp [lastExtra, set]

theorem lastSeeds_concat (cs : List Check) (c : Check) :
    lastSeeds (cs ++ [c]) = c.seeds?.getD (lastSeeds cs) := by
  cases set : c.seeds? <;> simp [lastSeeds, set]

variable {t : Tree} {extra : UInt32} {range : UInt64 × UInt64} {a b : Assertion}

/-- After `Check.apply` an assertion is still a `draw`, of the window and the seeds that the check sets, or
    else of those before it. -/
theorem draw_of_apply {c : Check} (drawn : Assertion.draw ⟨t, extra⟩ range.1 range.2 = .ok a)
    (passed : c.apply a = .ok b) :
    Assertion.draw ⟨t, c.extra?.getD extra⟩ (c.seeds?.getD range).1 (c.seeds?.getD range).2 = .ok b := by
  obtain ⟨samples, -, rfl⟩ := Assertion.draw_eq_ok.mp drawn
  cases c with
  | extra n => exact passed
  | seeds first stop => exact passed
  | always | allSatisfy | lengthsWithin | isDeterministic =>
      simp only [apply, Assertion.always, Assertion.allSatisfy, Assertion.lengthsWithin,
        Assertion.isDeterministic] at passed
      cases (Assertion.firstFailure_eq_ok.mp passed).2
      exact drawn
  | allMatch expression =>
      rw [apply, Assertion.allMatch] at passed
      split at passed
      · cases passed
      · cases (Assertion.firstFailure_eq_ok.mp passed).2
        exact drawn
  | covers expected =>
      cases (Assertion.seeks_covers _ expected).passes b passed
      exact drawn

end Check

namespace Assertion

variable {t : Tree} {cs : List Check} {a : Assertion}

/-- What comes of checks made one after another, from the samples that are drawn first. -/
def chain (t : Tree) (cs : List Check) : Except CheckFailure Assertion := do
  cs.foldlM Check.apply (← ofTree t)

theorem draw_of_chain (passed : chain t cs = .ok a) :
    draw ⟨t, Check.lastExtra cs⟩ (Check.lastSeeds cs).1 (Check.lastSeeds cs).2 = .ok a := by
  induction cs using List.reverseRecOn generalizing a with
  | nil =>
      obtain ⟨b, drawn, same⟩ := then_eq_ok.mp passed
      cases same
      exact drawn
  | append_singleton cs c ih =>
      have split : chain t (cs ++ [c]) = chain t cs >>= fun b => c.apply b := by
        simp [chain, List.foldlM_append]
      rw [split] at passed
      obtain ⟨b, before, passed⟩ := then_eq_ok.mp passed
      rw [Check.lastExtra_concat, Check.lastSeeds_concat]
      exact Check.draw_of_apply (ih before) passed

/-- After a `chain` of checks that passed, an assertion is `Fresh` for the last window (`Check.lastExtra`)
    and the last seeds (`Check.lastSeeds`) alone. `withExtra` and `seeds` commute, and fail only where the
    draws of a sample run out. `isDeterministic` passes, and every other check `Judges` these samples or
    `Seeks` values among them. -/
theorem fresh_of_chain (obtained : t.Obtained) :
    (∀ f, ofTree t = .error f → f = .fault .exhausted ∧ RunsOut t defaultExtra defaultSeeds) ∧
    ∀ {cs : List Check} {a : Assertion}, chain t cs = .ok a →
      a.Fresh t (Check.lastExtra cs) (Check.lastSeeds cs) ∧
      (∀ {cs' : List Check} {a' : Assertion}, chain t cs' = .ok a' →
        Check.lastExtra cs' = Check.lastExtra cs → Check.lastSeeds cs' = Check.lastSeeds cs → a' = a) ∧
      (∀ (extra : UInt32) (first stop : UInt64) {b b' : Assertion}, a.withExtra extra = .ok b →
        a.seeds first stop = .ok b' → b.seeds first stop = b'.withExtra extra) ∧
      ((∀ extra f, a.withExtra extra = .error f →
          f = .fault .exhausted ∧ RunsOut t extra (Check.lastSeeds cs)) ∧
        ∀ first stop f, a.seeds first stop = .error f →
          f = .fault .exhausted ∧ RunsOut t (Check.lastExtra cs) (first, stop)) ∧
      a.isDeterministic = .ok a ∧
      (∀ expected, a.Judges (· = expected) (.differs · · expected) (a.always expected)) ∧
      (∀ (description : String) (holds : String → Bool), a.Judges (fun text => holds text)
        (.unsatisfied · · description) (a.allSatisfy description holds)) ∧
      (∀ lo hi : Nat, a.Judges (fun text => lo ≤ text.length ∧ text.length ≤ hi)
        (.badLength · · lo hi) (a.lengthsWithin lo hi)) ∧
      ∀ expected, a.Seeks expected (a.covers expected) := by
  refine ⟨fun f => draw_fault obtained, fun {cs a} passed => ?_⟩
  have drawn := draw_of_chain passed
  have fresh := fresh_of_draw drawn
  obtain ⟨generator, range⟩ := fresh.settings
  have judges (good : String → Prop) [DecidablePred good] (failure : UInt64 → String → CheckFailure) :=
    judges_firstFailure fresh.ascending good failure
  refine ⟨fresh, fun {cs' a'} passed' extras ranges => ?_, fun extra first stop b b' set set' => ?_,
    ⟨fun extra f failed => ?_, fun first stop f failed => ?_⟩, isDeterministic_of_fresh fresh,
    fun expected => judges _ _, fun description holds => judges _ _, fun lo hi => judges _ _,
    seeks_covers a⟩
  · have drawn' := draw_of_chain passed'
    rw [extras, ranges, drawn] at drawn'
    exact (Except.ok.inj drawn').symm
  · obtain ⟨samples, -, rfl⟩ := draw_eq_ok.mp set
    obtain ⟨samples', -, rfl⟩ := draw_eq_ok.mp set'
    rfl
  · rw [withExtra, generator] at failed
    rw [← range]
    exact draw_fault obtained failed
  · rw [seeds, generator] at failed
    exact draw_fault obtained failed

theorem fresh_of_chain_letter :
    let t := treeOfToken (.char 'a')
    let a : Assertion := ⟨⟨t, 1⟩, 3, 5, [(3, "a"), (4, "a")]⟩
    chain t [.seeds 7 9, .always "a", .extra 1, .covers ["a"], .seeds 3 5] = .ok a ∧
      a.Fresh t 1 (3, 5) ∧ a.isDeterministic = .ok a ∧
      (∃ f, a.always "b" = .error f) ∧ ∃ f, a.covers ["a", "b"] = .error f := by
  intro t a
  have made : Shape.build [.token (.char 'a')] = .ok t := by decide +kernel
  have passed : chain t
      [.seeds 7 9, .always "a", .extra 1, .covers ["a"], .seeds 3 5] = .ok a := by decide +kernel
  obtain ⟨fresh, -, -, -, again, always, -, -, covers⟩ := (fresh_of_chain (.shaped made)).2 passed
  refine ⟨passed, fresh, again, (always "b").fails_iff.mpr ⟨3, "a", by decide, by decide⟩,
    (covers ["a", "b"]).fails_iff.mpr ⟨"b", by decide, fun seed held => ?_⟩⟩
  simp [a] at held

end Assertion

end PatternSampler
