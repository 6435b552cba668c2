import Mathlib
import PatternSampler.Parse
import PatternSampler.Proofs.Expr.Everywhere
import PatternSampler.Proofs.Expr.Patterns
import PatternSampler.Proofs.Results
import PatternSampler.Proofs.Tree.Filled

/-! # The tree of an expression

Elements are added to a builder in the order in which their nodes are met, so what is added for an
element can be said without a builder: it is a piece of a tree, or the first problem of the element.
-/

namespace PatternSampler

/-! ## Classes and repetitions -/

theorem CharacterClass.ofTokens_eq_ok {first last : Token} {cls : CharacterClass} :
    ofTokens first last = .ok cls ↔ cls.first = first ∧ cls.last = last := by
  constructor
  · intro made
    simp only [ofTokens] at made
    split at made
    · split at made
      · split at made
        · cases made
          exact ⟨rfl, rfl⟩
        · cases made
      · cases made
    · cases made
  · rintro ⟨rfl, rfl⟩
    rw [ofTokens, dif_pos cls.first_literal, dif_pos cls.last_literal, dif_pos cls.ordered]

theorem Repetition.ofBounds_eq_ok {min : UInt32} {max : Option UInt32} {r : Repetition} :
    ofBounds min max = .ok r ↔ r.min = min ∧ r.max = max := by
  constructor
  · intro made
    cases max with
    | none =>
        cases made
        exact ⟨rfl, rfl⟩
    | some max =>
        simp only [ofBounds] at made
        split at made
        · cases made
          exact ⟨rfl, rfl⟩
        · cases made
  · rintro ⟨rfl, rfl⟩
    obtain ⟨min, max, ordered⟩ := r
    cases max with
    | none => rfl
    | some max => exact dif_pos (ordered max rfl)

theorem Bounds.toNat_ofNat {n : Nat} (small : n ≤ limit) : (UInt32.ofNat n).toNat = n := by
  refine UInt32.toNat_ofNat_of_lt' ?_
  simp only [limit] at small
  simp only [UInt32.size]
  omega

/-! ## Pieces of an expression -/

/-- What is added for an item of a set that stands in `setSpan`. -/
def SetItem.sprout : SetItem → Except ParseError Sprout
  | .single t => .ok (.node (.token t) [])
  | .range first last span => do
    let cls ← ValidationError.at span (CharacterClass.ofTokens first last)
    .ok (.node (.characterClass cls) [])

namespace Expr

def sproutItems : List SetItem → Except ParseError (List Sprout)
  | [] => .ok []
  | item :: items => do .ok ((← item.sprout) :: (← sproutItems items))

mutual

/-- What is added for an element. -/
def sprout : Expr → Except ParseError Sprout
  | .token t _ => .ok (.node (.token t) [])
  | .group [branch] span => do
    let ss ← sproutAll branch
    if ss.length = 0 then .error (.grammar .emptyGroup span) else .ok (.node .group ss)
  | .group branches span => do
    let ss ← sproutBranches span branches
    .ok (.node .group [.node .alternative ss])
  | .set negated items span =>
    if negated then .error (.unsupported .negatedSet span)
    else do .ok (.node .choice (← sproutItems items))
  | .quantified atom bounds span => do
    let r ← ValidationError.at span bounds.repetition
    .ok (.node (.repetition r) [← atom.sprout])

def sproutAll : List Expr → Except ParseError (List Sprout)
  | [] => .ok []
  | e :: es => do .ok ((← e.sprout) :: (← sproutAll es))

/-- What is added for each of several branches that stand in `span`. -/
def sproutBranches (span : Span) : List (List Expr) → Except ParseError (List Sprout)
  | [] => .ok []
  | [] :: _ => .error (.grammar .emptyBranch span)
  | [e] :: branches => do .ok ((← e.sprout) :: (← sproutBranches span branches))
  | branch :: branches => do
    .ok (.node .group (← sproutAll branch) :: (← sproutBranches span branches))

end

/-- What is added for an alternation that stands in `span`. -/
def sproutAlternation (span : Span) : List Branch → Except ParseError (List Sprout)
  | [branch] => sproutAll branch
  | branches => do .ok [.node .alternative (← sproutBranches span branches)]

end Expr

/-! ## Adding is grafting -/

open Builder

variable {b : Builder} {parent : Nat}

theorem push_then (bears : b.Bears parent) (kind : NodeKind) (span : Span) {α : Type}
    (next : NodeId × Builder → Except ParseError α) :
    ValidationError.at span (b.pushUnder parent kind) >>= next =
      next (b.nextId, b.graft parent [.node kind []]) := by
  rw [pushUnder_eq_graft bears]
  rfl

theorem SetItem.addTo_eq (item : SetItem) (span : Span) (bears : b.Bears parent) :
    item.addTo parent span b = (fun s => b.graft parent [s]) <$> item.sprout := by
  cases item with
  | single t =>
      rw [addTo, pushUnder_eq_graft bears]
      rfl
  | range first last span =>
      rw [addTo, sprout]
      cases CharacterClass.ofTokens first last with
      | error e => rfl
      | ok cls =>
          simp only [ValidationError.at, pushUnder_eq_graft bears]
          rfl

namespace Expr

theorem graft_then (lt : parent < b.nodes.size) {s : Sprout} {r : Except ParseError (List Sprout)} :
    (fun ss => (b.graft parent [s]).graft parent ss) <$> r =
      (fun ss => b.graft parent (s :: ss)) <$> r := by
  simp only [graft_graft lt, List.singleton_append]

theorem addItems_eq (items : List SetItem) (span : Span) (bears : b.Bears parent) :
    items.foldlM (fun b item => item.addTo parent span b) b =
      (fun ss => b.graft parent ss) <$> sproutItems items := by
  induction items generalizing b with
  | nil =>
      simp [sproutItems, graft_nil]
      rfl
  | cons item items ih =>
      rw [List.foldlM_cons, SetItem.addTo_eq item span bears, sproutItems]
      cases item.sprout with
      | error e => rfl
      | ok s =>
          refine (ih (bears.graft parent [s])).trans ?_
          rw [graft_then bears.lt]
          cases sproutItems items <;> rfl

mutual

theorem addTo_eq (e : Expr) {b : Builder} {parent : NodeId} (bears : b.Bears parent) :
    e.addTo parent b = (fun s => b.graft parent [s]) <$> e.sprout := by
  cases e with
  | token t span =>
      rw [addTo, pushUnder_eq_graft bears]
      rfl
  | group branches span =>
      have inner : (b.graft parent [.node .group []]).Bears b.nextId := bears_graft_node rfl
      match branches with
      | [branch] =>
          rw [addTo, push_then bears, sprout]
          simp only [addAllTo_eq branch inner]
          cases sproutAll branch with
          | error e => rfl
          | ok ss =>
              simp only [Except.map_ok, ok_then, graft_graft_node, childCount_graft_node]
              split <;> rfl
      | [] | _ :: _ :: _ =>
          have below : ((b.graft parent [.node .group []]).graft b.nextId [.node .alternative []]).Bears
              (b.graft parent [.node .group []]).nextId := bears_graft_node rfl
          rw [addTo, push_then bears, sprout]
          · simp only [push_then inner, addBranchesTo_eq span _ below]
            cases sproutBranches span _ with
            | error e => rfl
            | ok ss =>
                rw [Except.map_ok, graft_graft_node (b := b.graft parent _), graft_graft_node]
                rfl
          all_goals simp
  | set negated items span =>
      have inner : (b.graft parent [.node .choice []]).Bears b.nextId := bears_graft_node rfl
      rw [addTo, sprout]
      split
      · rfl
      · simp only [push_then bears, addItems_eq items span inner]
        cases sproutItems items with
        | error e => rfl
        | ok ss => simp only [Except.map_ok, ok_then, graft_graft_node]
  | quantified atom bounds span =>
      rw [addTo, sprout]
      cases ValidationError.at span bounds.repetition with
      | error e => rfl
      | ok r =>
          have inner : (b.graft parent [.node (.repetition r) []]).Bears b.nextId := bears_graft_node rfl
          simp only [ok_then, push_then bears, addTo_eq atom inner]
          cases atom.sprout with
          | error e => rfl
          | ok s => simp only [Except.map_ok, ok_then, graft_graft_node]

theorem addAllTo_eq (es : List Expr) {b : Builder} {parent : NodeId} (bears : b.Bears parent) :
    addAllTo parent es b = (fun ss => b.graft parent ss) <$> sproutAll es := by
  cases es with
  | nil =>
      rw [addAllTo, sproutAll]
      exact congrArg _ graft_nil.symm
  | cons e es =>
      rw [addAllTo, addTo_eq e bears, sproutAll]
      cases e.sprout with
      | error e => rfl
      | ok s =>
          refine (addAllTo_eq es (bears.graft parent [s])).trans ?_
          rw [graft_then bears.lt]
          cases sproutAll es <;> rfl

theorem addBranchesTo_eq (span : Span) (branches : List (List Expr)) {b : Builder} {parent : NodeId}
    (bears : b.Bears parent) : addBranchesTo parent span branches b =
      (fun ss => b.graft parent ss) <$> sproutBranches span branches := by
  match branches with
  | [] =>
      rw [addBranchesTo, sproutBranches]
      exact congrArg _ graft_nil.symm
  | [] :: branches => rfl
  | [e] :: branches =>
      rw [addBranchesTo, addTo_eq e bears, sproutBranches]
      cases e.sprout with
      | error e => rfl
      | ok s =>
          refine (addBranchesTo_eq span branches (bears.graft parent [s])).trans ?_
          rw [graft_then bears.lt]
          cases sproutBranches span branches <;> rfl
  | (e :: e' :: es) :: branches =>
      have inner : (b.graft parent [.node .group []]).Bears b.nextId := bears_graft_node rfl
      rw [addBranchesTo, push_then bears, sproutBranches]
      · simp only [addAllTo_eq _ inner]
        cases sproutAll (e :: e' :: es) with
        | error e => rfl
        | ok ss =>
            simp only [Except.map_ok, ok_then, graft_graft_node]
            refine (addBranchesTo_eq span branches (bears.graft parent [.node .group ss])).trans ?_
            rw [graft_then bears.lt]
            cases sproutBranches span branches <;> rfl
      all_goals simp

end

theorem addAlternationTo_eq (span : Span) (branches : List Branch) (bears : b.Bears parent) :
    addAlternationTo parent span branches b =
      (fun ss => b.graft parent ss) <$> sproutAlternation span branches := by
  match branches with
  | [branch] => exact addAllTo_eq branch bears
  | [] | _ :: _ :: _ =>
      have inner : (b.graft parent [.node .alternative []]).Bears b.nextId := bears_graft_node rfl
      rw [addAlternationTo, push_then bears, sproutAlternation]
      · simp only [addBranchesTo_eq span _ inner]
        cases sproutBranches span _ with
        | error e => rfl
        | ok ss => simp only [Except.map_ok, ok_then, graft_graft_node]
      all_goals simp

/-! ## What has to be in order -/

theorem at_eq_ok {α : Type} {span : Span} {x : Except ValidationError α} {a : α} :
    ValidationError.at span x = .ok a ↔ x = .ok a := by
  cases x <;> simp [ValidationError.at]

variable {span : Span} {s : Sprout} {ss : List Sprout}

theorem sprout_range_eq_ok {first last : Token} : (SetItem.range first last span).sprout = .ok s ↔
    ∃ cls, CharacterClass.ofTokens first last = .ok cls ∧ .node (.characterClass cls) [] = s := by
  simp [SetItem.sprout, then_eq_ok, at_eq_ok]

theorem sproutItems_cons_eq_ok {item : SetItem} {items : List SetItem} :
    sproutItems (item :: items) = .ok ss ↔
      ∃ s, item.sprout = .ok s ∧ ∃ others, sproutItems items = .ok others ∧ s :: others = ss := by
  simp [sproutItems, then_eq_ok]

theorem sprout_group_one_eq_ok {branch : Branch} : (group [branch] span).sprout = .ok s ↔
    ∃ ss, sproutAll branch = .ok ss ∧ ss ≠ [] ∧ .node .group ss = s := by
  rw [sprout, then_eq_ok]
  refine exists_congr fun ss => and_congr_right fun _ => ?_
  cases ss with
  | nil => simp
  | cons => simp

theorem sprout_group_more_eq_ok {branches : List Branch} (more : branches.length ≠ 1) :
    (group branches span).sprout = .ok s ↔
      ∃ ss, sproutBranches span branches = .ok ss ∧ .node .group [.node .alternative ss] = s := by
  rw [sprout, then_eq_ok]
  · simp
  · rintro branch rfl
    exact more rfl

theorem sprout_set_eq_ok {negated : Bool} {items : List SetItem} :
    (set negated items span).sprout = .ok s ↔
      negated = false ∧ ∃ ss, sproutItems items = .ok ss ∧ .node .choice ss = s := by
  cases negated with
  | true => simp [sprout]
  | false => simp [sprout, then_eq_ok]

theorem sprout_quantified_eq_ok {atom : Expr} {bounds : Bounds} :
    (quantified atom bounds span).sprout = .ok s ↔
      ∃ r, bounds.repetition = .ok r ∧ ∃ s', atom.sprout = .ok s' ∧ .node (.repetition r) [s'] = s := by
  simp [sprout, then_eq_ok, at_eq_ok]

theorem sproutAll_cons_eq_ok {e : Expr} {es : Branch} : sproutAll (e :: es) = .ok ss ↔
    ∃ s, e.sprout = .ok s ∧ ∃ others, sproutAll es = .ok others ∧ s :: others = ss := by
  simp [sproutAll, then_eq_ok]

/-- What is added for one of several branches. -/
def BranchSprout (es : Branch) (s : Sprout) : Prop :=
  (∃ e, es = [e] ∧ e.sprout = .ok s) ∨
    2 ≤ es.length ∧ ∃ ss, sproutAll es = .ok ss ∧ .node .group ss = s

theorem sproutBranches_cons_eq_ok {es : Branch} {branches : List Branch} :
    sproutBranches span (es :: branches) = .ok ss ↔
      ∃ s, BranchSprout es s ∧ ∃ others, sproutBranches span branches = .ok others ∧ s :: others = ss := by
  match es with
  | [] => simp [sproutBranches, BranchSprout]
  | [e] => simp [sproutBranches, BranchSprout, then_eq_ok]
  | e :: e' :: es =>
      rw [sproutBranches]
      · simp [BranchSprout, then_eq_ok]
      all_goals simp

theorem sproutAlternation_more_eq_ok {branches : List Branch} (more : branches.length ≠ 1) :
    sproutAlternation span branches = .ok ss ↔
      ∃ below, sproutBranches span branches = .ok below ∧ [.node .alternative below] = ss := by
  rw [sproutAlternation, then_eq_ok]
  · simp
  · rintro branch rfl
    exact more rfl

/-! ## The tree of a pattern -/

theorem filled_item {item : SetItem} (sprouted : item.sprout = .ok s) : s.Filled := by
  cases item with
  | single t =>
      cases sprouted
      exact ⟨rfl, trivial⟩
  | range first last span =>
      obtain ⟨cls, -, rfl⟩ := sprout_range_eq_ok.mp sprouted
      exact ⟨rfl, trivial⟩

theorem filled_items {items : List SetItem} (sprouted : sproutItems items = .ok ss) :
    Sprout.AllFilled ss ∧ ss.length = items.length := by
  induction items generalizing ss with
  | nil =>
      cases sprouted
      exact ⟨trivial, rfl⟩
  | cons item items ih =>
      obtain ⟨s, first, ss, others, rfl⟩ := sproutItems_cons_eq_ok.mp sprouted
      obtain ⟨filled, length⟩ := ih others
      exact ⟨⟨filled_item first, filled⟩, congrArg (· + 1) length⟩

variable {allowed : Token → Prop}

mutual

/-- What a `Formed` expression sprouts is `Filled`. -/
theorem filled_sprout {e : Expr} (formed : e.Everywhere (Formed allowed)) {s : Sprout}
    (sprouted : e.sprout = .ok s) : s.Filled := by
  cases e with
  | token t span =>
      cases sprouted
      exact ⟨rfl, trivial⟩
  | group branches span =>
      match branches with
      | [branch] =>
          obtain ⟨ss, below, nonempty, rfl⟩ := sprout_group_one_eq_ok.mp sprouted
          exact ⟨List.length_pos_iff.mpr nonempty, (filled_sproutAll formed.2.1 below).1⟩
      | [] => exact absurd rfl formed.1
      | es :: es' :: branches =>
          obtain ⟨ss, below, rfl⟩ := (sprout_group_more_eq_ok (by simp)).mp sprouted
          obtain ⟨filled, length⟩ := filled_sproutBranches formed.2 below
          have several : 2 ≤ ss.length := by simp [length]
          exact ⟨le_rfl, ⟨several, filled⟩, trivial⟩
  | set negated items span =>
      obtain ⟨-, ss, below, rfl⟩ := sprout_set_eq_ok.mp sprouted
      obtain ⟨filled, length⟩ := filled_items below
      exact ⟨length ▸ List.length_pos_iff.mpr formed.1, filled⟩
  | quantified atom bounds span =>
      obtain ⟨r, -, s', below, rfl⟩ := sprout_quantified_eq_ok.mp sprouted
      exact ⟨rfl, filled_sprout formed.2 below, trivial⟩
termination_by sizeOf s

theorem filled_sproutAll {es : List Expr} (formed : EverywhereIn (Formed allowed) es)
    {ss : List Sprout} (sprouted : sproutAll es = .ok ss) :
    Sprout.AllFilled ss ∧ ss.length = es.length := by
  cases es with
  | nil =>
      cases sprouted
      exact ⟨trivial, rfl⟩
  | cons e es =>
      obtain ⟨s, first, ss, others, rfl⟩ := sproutAll_cons_eq_ok.mp sprouted
      obtain ⟨filled, length⟩ := filled_sproutAll formed.2 others
      exact ⟨⟨filled_sprout formed.1 first, filled⟩, congrArg (· + 1) length⟩
termination_by sizeOf ss

theorem filled_sproutBranches {span : Span} {branches : List (List Expr)}
    (formed : EverywhereInAll (Formed allowed) branches) {ss : List Sprout}
    (sprouted : sproutBranches span branches = .ok ss) :
    Sprout.AllFilled ss ∧ ss.length = branches.length := by
  cases branches with
  | nil =>
      cases sprouted
      exact ⟨trivial, rfl⟩
  | cons es branches =>
      obtain ⟨s, first, ss, others, rfl⟩ := sproutBranches_cons_eq_ok.mp sprouted
      obtain ⟨filled, length⟩ := filled_sproutBranches formed.2 others
      refine ⟨⟨?_, filled⟩, congrArg (· + 1) length⟩
      rcases first with ⟨e, rfl, alone⟩ | ⟨more, ss, all, rfl⟩
      · exact filled_sprout formed.1.1 alone
      · obtain ⟨filled, length⟩ := filled_sproutAll formed.1 all
        exact ⟨length ▸ one_le_two.trans more, filled⟩
termination_by sizeOf ss

end

theorem filled_sproutAlternation {branches : List Branch} (nonempty : branches ≠ [])
    (formed : EverywhereInAll (Formed allowed) branches)
    (sprouted : sproutAlternation span branches = .ok ss) : Sprout.AllFilled ss := by
  match branches with
  | [] => exact absurd rfl nonempty
  | [branch] => exact (filled_sproutAll formed.1 sprouted).1
  | es :: es' :: branches =>
      obtain ⟨ss, below, rfl⟩ := (sproutAlternation_more_eq_ok (by simp)).mp sprouted
      obtain ⟨filled, length⟩ := filled_sproutBranches formed below
      have several : 2 ≤ ss.length := by simp [length]
      exact ⟨⟨several, filled⟩, trivial⟩

theorem wellFormed_sproutAlternation {branches : List Branch} (nonempty : branches ≠ [])
    (formed : EverywhereInAll (Formed allowed) branches)
    (sprouted : sproutAlternation span branches = .ok ss) : Sprout.AllWellFormed ss :=
  (filled_sproutAlternation nonempty formed sprouted).wellFormed

end Expr

namespace Pattern

variable {p : Pattern} {t : Tree} {allowed : Token → Prop}

/-- `Pattern.tree`, which pushes one node after another, is the frame of what `Expr.sproutAlternation`
    answers. -/
theorem tree_eq (nonempty : p.branches ≠ [])
    (formed : Expr.EverywhereInAll (Expr.Formed allowed) p.branches) :
    p.tree = Tree.framed <$> Expr.sproutAlternation p.span p.branches := by
  have bears : (Builder.empty.root .opening).2.Bears 0 := ⟨_, rfl, rfl⟩
  rw [tree]
  refine (congrArg (· >>= _) (Expr.addAlternationTo_eq p.span p.branches bears)).trans ?_
  cases sprouted : Expr.sproutAlternation p.span p.branches with
  | error e => rfl
  | ok ss =>
      have wf := Expr.wellFormed_sproutAlternation nonempty formed sprouted
      exact congrArg (ValidationError.at p.span) (Builder.finish_framed wf)

theorem tree_eq_ok (nonempty : p.branches ≠ [])
    (formed : Expr.EverywhereInAll (Expr.Formed allowed) p.branches) :
    p.tree = .ok t ↔
      ∃ ss, Expr.sproutAlternation p.span p.branches = .ok ss ∧ Tree.framed ss = t := by
  rw [tree_eq nonempty formed, map_eq_ok]

/-- The tree of a `Grammar.Whole` pattern is `Built`. -/
theorem built_of_tree {atEnd : Span} {ts : List Lexeme} (whole : Grammar.Whole atEnd ts p)
    (made : p.tree = .ok t) : t.Built := by
  obtain ⟨nonempty, formed⟩ := whole.formed_any
  obtain ⟨ss, sprouted, rfl⟩ := (tree_eq_ok nonempty formed).mp made
  exact Tree.built_framed (Expr.wellFormed_sproutAlternation nonempty formed sprouted)

end Pattern

theorem parseLexemes_eq_ok {ts : List Lexeme} {length : Nat} {t : Tree} :
    parseLexemes ts length = .ok t ↔ ∃ p, Grammar.Whole (.emptyAt length) ts p ∧ p.tree = .ok t := by
  simp only [← Pattern.ofLexemes_eq_ok, parseLexemes]
  cases Pattern.ofLexemes (.emptyAt length) ts <;> simp

theorem parse_of_tokens {pattern : String} {ts : List Lexeme} (tokens : tokenize pattern = .ok ts) :
    parse pattern = parseLexemes ts pattern.utf8ByteSize := by
  simp only [parse, tokens]

theorem parse_eq_ok {pattern : String} {t : Tree} : parse pattern = .ok t ↔
    ∃ ts p, tokenize pattern = .ok ts ∧ Grammar.Whole (.emptyAt pattern.utf8ByteSize) ts p ∧
      p.tree = .ok t := by
  cases tokens : tokenize pattern with
  | error e => simp [parse, tokens]
  | ok ts => simp [parse_of_tokens tokens, parseLexemes_eq_ok]

end PatternSampler
