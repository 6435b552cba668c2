import Mathlib
import PatternSampler.Proofs.Parse.Lowering

/-! # Which patterns have a tree

A text has a tree if it has tokens, if these are written as the grammar says, and if the expression that
they stand for is admissible: no branch is missing and no set is negated, and ranges and bounds are in
order.
-/

namespace PatternSampler

/-- The boundaries of a range are characters, the first no larger than the last. -/
def SetItem.Admissible : SetItem → Prop
  | single _ => True
  | range first last _ => ∃ lo ∈ first.literal?, ∃ hi ∈ last.literal?, lo ≤ hi

def Bounds.Admissible (bounds : Bounds) : Prop := ∀ m ∈ bounds.max, bounds.min ≤ m

/-- What is asked of a single expression, apart from those inside it. -/
def Expr.Admissible : Expr → Prop
  | .token _ _ => True
  | .group branches _ => branches ≠ [[]] ∧ (2 ≤ branches.length → [] ∉ branches)
  | .set negated items _ => negated = false ∧ ∀ item ∈ items, item.Admissible
  | .quantified _ bounds _ => bounds.Admissible

def Pattern.Admissible (p : Pattern) : Prop :=
  (2 ≤ p.branches.length → [] ∉ p.branches) ∧ Expr.EverywhereInAll Expr.Admissible p.branches

theorem SetItem.exists_class_iff {first last : Token} {span : Span} :
    (∃ cls, CharacterClass.ofTokens first last = .ok cls) ↔ (range first last span).Admissible := by
  simp only [CharacterClass.ofTokens_eq_ok]
  constructor
  · rintro ⟨cls, rfl, rfl⟩
    exact ⟨cls.lo, Option.get_mem _, cls.hi, Option.get_mem _, cls.ordered⟩
  · rintro ⟨lo, first_eq, hi, last_eq, le⟩
    rw [Option.mem_def] at first_eq last_eq
    exact ⟨⟨first, last, by simp [first_eq], by simp [last_eq], by simpa [first_eq, last_eq] using le⟩,
      rfl, rfl⟩

theorem Bounds.exists_repetition_iff {bounds : Bounds}
    (limited : bounds.min ≤ limit ∧ ∀ m ∈ bounds.max, m ≤ limit) :
    (∃ r, bounds.repetition = .ok r) ↔ bounds.Admissible := by
  obtain ⟨min, max⟩ := bounds
  obtain ⟨min_le, max_le⟩ := limited
  simp only [repetition, Repetition.ofBounds_eq_ok]
  cases max with
  | none => exact ⟨fun _ => nofun, fun _ => ⟨.atLeast (.ofNat min), rfl, rfl⟩⟩
  | some max =>
      have max_le : max ≤ limit := max_le max rfl
      have order : UInt32.ofNat min ≤ UInt32.ofNat max ↔ min ≤ max := by
        rw [UInt32.le_iff_toNat_le, toNat_ofNat min_le, toNat_ofNat max_le]
      constructor
      · rintro ⟨r, min_eq, max_eq⟩
        have ordered := r.ordered (.ofNat max) max_eq
        rw [min_eq] at ordered
        simpa [Admissible] using order.mp ordered
      · intro admissible
        have ordered := order.mpr (admissible max rfl)
        exact ⟨⟨.ofNat min, some (.ofNat max), by simpa using ordered⟩, rfl, rfl⟩

namespace Expr

/-! ## Pieces of admissible expressions -/

variable {allowed : Token → Prop}

theorem exists_sproutItems_iff {items : List SetItem} :
    (∃ ss, sproutItems items = .ok ss) ↔ ∀ item ∈ items, item.Admissible := by
  induction items with
  | nil => simp [sproutItems]
  | cons item items ih =>
      have first : (∃ s, item.sprout = .ok s) ↔ item.Admissible := by
        cases item with
        | single t => exact ⟨fun _ => trivial, fun _ => ⟨_, rfl⟩⟩
        | range lo hi span =>
            rw [← SetItem.exists_class_iff]
            constructor
            · rintro ⟨s, sprouted⟩
              obtain ⟨cls, made, -⟩ := sprout_range_eq_ok.mp sprouted
              exact ⟨cls, made⟩
            · rintro ⟨cls, made⟩
              exact ⟨_, sprout_range_eq_ok.mpr ⟨cls, made, rfl⟩⟩
      rw [List.forall_mem_cons, ← first, ← ih]
      constructor
      · rintro ⟨ss, sprouted⟩
        obtain ⟨s, one, others, all, -⟩ := sproutItems_cons_eq_ok.mp sprouted
        exact ⟨⟨s, one⟩, others, all⟩
      · rintro ⟨⟨s, one⟩, others, all⟩
        exact ⟨_, sproutItems_cons_eq_ok.mpr ⟨s, one, others, all, rfl⟩⟩

theorem exists_branchSprout_iff {es : Branch} :
    (∃ s, BranchSprout es s) ↔ es ≠ [] ∧ ∃ ss, sproutAll es = .ok ss := by
  constructor
  · rintro ⟨s, ⟨e, rfl, alone⟩ | ⟨more, ss, all, -⟩⟩
    · exact ⟨by simp, [s], sproutAll_cons_eq_ok.mpr ⟨s, alone, [], rfl, rfl⟩⟩
    · exact ⟨List.ne_nil_of_length_pos (by omega), ss, all⟩
  · rintro ⟨nonempty, ss, all⟩
    match es with
    | [] => exact absurd rfl nonempty
    | [e] =>
        obtain ⟨s, alone, -⟩ := sproutAll_cons_eq_ok.mp all
        exact ⟨s, .inl ⟨e, rfl, alone⟩⟩
    | e :: e' :: es => exact ⟨_, .inr ⟨by simp, ss, all, rfl⟩⟩

mutual

/-- `Expr.sprout` succeeds exactly where all of a `Formed` expression is `Admissible`. -/
theorem exists_sprout_iff {e : Expr} (formed : e.Everywhere (Formed allowed)) :
    (∃ s, e.sprout = .ok s) ↔ e.Everywhere Admissible := by
  cases e with
  | token t span => exact ⟨fun _ => trivial, fun _ => ⟨_, rfl⟩⟩
  | group branches span =>
      match branches with
      | [] => exact absurd rfl formed.1
      | [branch] =>
          have inside := exists_sproutAll_iff formed.2.1
          constructor
          · rintro ⟨s, sprouted⟩
            obtain ⟨ss, all, nonempty, -⟩ := sprout_group_one_eq_ok.mp sprouted
            refine ⟨⟨?_, by simp⟩, inside.mp ⟨ss, all⟩, trivial⟩
            rintro ⟨⟩
            cases all
            exact nonempty rfl
          · rintro ⟨⟨filled, -⟩, admissible, -⟩
            obtain ⟨ss, all⟩ := inside.mpr admissible
            have length := (filled_sproutAll formed.2.1 all).2
            refine ⟨_, sprout_group_one_eq_ok.mpr ⟨ss, all, ?_, rfl⟩⟩
            rintro rfl
            exact filled (congrArg (fun es => [es]) (List.length_eq_zero_iff.mp length.symm))
      | es :: es' :: branches =>
          have inside := exists_sproutBranches_iff span formed.2
          have more : 2 ≤ (es :: es' :: branches).length := by simp
          constructor
          · rintro ⟨s, sprouted⟩
            obtain ⟨ss, all, -⟩ := (sprout_group_more_eq_ok (by simp)).mp sprouted
            obtain ⟨filled, admissible⟩ := inside.mp ⟨ss, all⟩
            exact ⟨⟨by simp, fun _ => filled⟩, admissible⟩
          · rintro ⟨⟨-, filled⟩, admissible⟩
            obtain ⟨ss, all⟩ := inside.mpr ⟨filled more, admissible⟩
            exact ⟨_, (sprout_group_more_eq_ok (by simp)).mpr ⟨ss, all, rfl⟩⟩
  | set negated items span =>
      simp only [sprout_set_eq_ok, Everywhere, Admissible, ← exists_sproutItems_iff]
      constructor
      · rintro ⟨_, plain, ss, all, -⟩
        exact ⟨plain, ss, all⟩
      · rintro ⟨plain, ss, all⟩
        exact ⟨_, plain, ss, all, rfl⟩
  | quantified atom bounds span =>
      have inside := exists_sprout_iff formed.2
      simp only [sprout_quantified_eq_ok, Everywhere, Admissible, ← inside,
        ← Bounds.exists_repetition_iff formed.1]
      constructor
      · rintro ⟨_, r, counted, s, one, -⟩
        exact ⟨⟨r, counted⟩, s, one⟩
      · rintro ⟨⟨r, counted⟩, s, one⟩
        exact ⟨_, r, counted, s, one, rfl⟩

theorem exists_sproutAll_iff {es : List Expr} (formed : EverywhereIn (Formed allowed) es) :
    (∃ ss, sproutAll es = .ok ss) ↔ EverywhereIn Admissible es := by
  cases es with
  | nil => exact ⟨fun _ => trivial, fun _ => ⟨_, rfl⟩⟩
  | cons e es =>
      have first := exists_sprout_iff formed.1
      have others := exists_sproutAll_iff formed.2
      simp only [sproutAll_cons_eq_ok, EverywhereIn, ← first, ← others]
      constructor
      · rintro ⟨_, s, one, ss, all, -⟩
        exact ⟨⟨s, one⟩, ss, all⟩
      · rintro ⟨⟨s, one⟩, ss, all⟩
        exact ⟨_, s, one, ss, all, rfl⟩

theorem exists_sproutBranches_iff (span : Span) {branches : List (List Expr)}
    (formed : EverywhereInAll (Formed allowed) branches) :
    (∃ ss, sproutBranches span branches = .ok ss) ↔
      [] ∉ branches ∧ EverywhereInAll Admissible branches := by
  cases branches with
  | nil => exact ⟨fun _ => ⟨by simp, trivial⟩, fun _ => ⟨_, rfl⟩⟩
  | cons es branches =>
      have first := exists_sproutAll_iff formed.1
      have others := exists_sproutBranches_iff span formed.2
      simp only [sproutBranches_cons_eq_ok, EverywhereInAll, List.mem_cons, not_or]
      constructor
      · rintro ⟨_, s, one, ss, all, -⟩
        obtain ⟨nonempty, inside⟩ := exists_branchSprout_iff.mp ⟨s, one⟩
        obtain ⟨filled, admissible⟩ := others.mp ⟨ss, all⟩
        exact ⟨⟨nonempty.symm, filled⟩, first.mp inside, admissible⟩
      · rintro ⟨⟨nonempty, filled⟩, inside, admissible⟩
        obtain ⟨s, one⟩ := exists_branchSprout_iff.mpr ⟨Ne.symm nonempty, first.mpr inside⟩
        obtain ⟨ss, all⟩ := others.mpr ⟨filled, admissible⟩
        exact ⟨_, s, one, ss, all, rfl⟩

end

theorem exists_sproutAlternation_iff (span : Span) {branches : List Branch} (nonempty : branches ≠ [])
    (formed : EverywhereInAll (Formed allowed) branches) :
    (∃ ss, sproutAlternation span branches = .ok ss) ↔
      (2 ≤ branches.length → [] ∉ branches) ∧ EverywhereInAll Admissible branches := by
  match branches with
  | [] => exact absurd rfl nonempty
  | [branch] =>
      refine (exists_sproutAll_iff formed.1).trans ⟨fun admissible => ?_, fun admissible => ?_⟩
      · exact ⟨by simp, admissible, trivial⟩
      · exact admissible.2.1
  | es :: es' :: branches =>
      have inside := exists_sproutBranches_iff span formed
      have more : 2 ≤ (es :: es' :: branches).length := by simp
      constructor
      · rintro ⟨ss, sprouted⟩
        obtain ⟨ss, all, -⟩ := (sproutAlternation_more_eq_ok (by simp)).mp sprouted
        obtain ⟨filled, admissible⟩ := inside.mp ⟨ss, all⟩
        exact ⟨fun _ => filled, admissible⟩
      · rintro ⟨filled, admissible⟩
        obtain ⟨ss, all⟩ := inside.mpr ⟨filled more, admissible⟩
        exact ⟨_, (sproutAlternation_more_eq_ok (by simp)).mpr ⟨ss, all, rfl⟩⟩

end Expr

/-! ## Whole patterns -/

theorem Pattern.exists_tree_iff {atEnd : Span} {ts : List Lexeme} {p : Pattern}
    (whole : Grammar.Whole atEnd ts p) : (∃ t, p.tree = .ok t) ↔ p.Admissible := by
  obtain ⟨nonempty, formed⟩ := whole.formed_any
  rw [Admissible, ← Expr.exists_sproutAlternation_iff p.span nonempty formed]
  simp only [tree_eq_ok nonempty formed]
  constructor
  · rintro ⟨t, ss, sprouted, -⟩
    exact ⟨ss, sprouted⟩
  · rintro ⟨ss, sprouted⟩
    exact ⟨_, ss, sprouted, rfl⟩

/-- `parse` succeeds exactly on texts whose tokens are `Grammar.Whole` and `Admissible`. It fails where
    `tokenize` does, and for their grammar with tokens that are not `Whole`. -/
theorem parse_accepts_iff (pattern : String) :
    ((∃ t, parse pattern = .ok t) ↔
      ∃ ts p, tokenize pattern = .ok ts ∧ Grammar.Whole (.emptyAt pattern.utf8ByteSize) ts p ∧
        p.Admissible) ∧
      (∀ e, tokenize pattern = .error e → parse pattern = .error (.lex e)) ∧
      ∀ ts, tokenize pattern = .ok ts →
        (¬∃ p, Grammar.Whole (.emptyAt pattern.utf8ByteSize) ts p) →
        ∃ problem span, parse pattern = .error (.grammar problem span) := by
  refine ⟨?_, fun e refused => by rw [parse, refused], fun ts tokens no_pattern => ?_⟩
  · simp only [parse_eq_ok]
    constructor
    · rintro ⟨t, ts, p, tokens, whole, made⟩
      exact ⟨ts, p, tokens, whole, (Pattern.exists_tree_iff whole).mp ⟨t, made⟩⟩
    · rintro ⟨ts, p, tokens, whole, admissible⟩
      obtain ⟨t, made⟩ := (Pattern.exists_tree_iff whole).mpr admissible
      exact ⟨t, ts, p, tokens, whole, made⟩
  · rw [parse, tokens]
    cases read : Pattern.ofLexemes (.emptyAt pattern.utf8ByteSize) ts with
    | ok p => exact absurd ⟨p, Pattern.ofLexemes_eq_ok.mp read⟩ no_pattern
    | error r => exact ⟨r.problem, r.span, by simp only [parseLexemes, read]⟩

end PatternSampler
