import Mathlib
import PatternSampler.Proofs.Generator.Drawing
import PatternSampler.Proofs.Parse.Lowering
import PatternSampler.Proofs.Tree.Shape

/-! # The shape of a pattern

The shape of an expression is read off the expression alone, and what is built from the shapes of a
pattern is the tree of the pattern, up to the tokens that the boundaries of classes were written with.
-/

namespace PatternSampler

/-! ## Shapes of expressions -/

/-- The shape of an item of a set. What is no character cannot be a boundary; anything will do for it. -/
def SetItem.shape : SetItem → Shape
  | .single t => .token t
  | .range first last _ => .characterClass (first.literal?.getD default) (last.literal?.getD default)

namespace Expr

mutual

def shape : Expr → Shape
  | .token t _ => .token t
  | .group [branch] _ => .group (shapeAll branch)
  | .group branches _ => .group [.alternative (shapeBranches branches)]
  | .set _ items _ => .choice (items.map SetItem.shape)
  | .quantified atom bounds _ =>
    .repetition (UInt32.ofNat bounds.min) (bounds.max.map UInt32.ofNat) atom.shape

def shapeAll : List Expr → List Shape
  | [] => []
  | e :: es => e.shape :: shapeAll es

/-- A branch of one element is that element, and a longer one is a group. -/
def shapeBranches : List (List Expr) → List Shape
  | [] => []
  | [e] :: branches => e.shape :: shapeBranches branches
  | branch :: branches => .group (shapeAll branch) :: shapeBranches branches

end

/-- The elements of a single branch as they are, several branches through an alternative. -/
def shapeAlternation : List Branch → List Shape
  | [branch] => shapeAll branch
  | branches => [.alternative (shapeBranches branches)]

end Expr

def Pattern.shapes (p : Pattern) : List Shape := Expr.shapeAlternation p.branches

theorem SetItem.sprout_shape {item : SetItem} {s : Sprout} (sprouted : item.sprout = .ok s) :
    item.shape.sprout = .ok s.plain := by
  cases item with
  | single t =>
      cases sprouted
      rfl
  | range first last span =>
      obtain ⟨cls, made, rfl⟩ := Expr.sprout_range_eq_ok.mp sprouted
      obtain ⟨rfl, rfl⟩ := CharacterClass.ofTokens_eq_ok.mp made
      have lo : cls.first.literal?.getD default = cls.lo := (Option.get_eq_getD _).symm
      have hi : cls.last.literal?.getD default = cls.hi := (Option.get_eq_getD _).symm
      have plain : CharacterClass.ofChars cls.lo cls.hi = .ok cls.plain :=
        CharacterClass.ofTokens_eq_ok.mpr ⟨rfl, rfl⟩
      rw [shape, lo, hi, Shape.sprout, plain]
      rfl

namespace Expr

theorem sproutAll_shapeItems {items : List SetItem} {ss : List Sprout}
    (sprouted : sproutItems items = .ok ss) :
    Shape.sproutAll (items.map SetItem.shape) = .ok (Sprout.plainAll ss) := by
  induction items generalizing ss with
  | nil =>
      cases sprouted
      rfl
  | cons item items ih =>
      obtain ⟨s, first, ss, others, rfl⟩ := sproutItems_cons_eq_ok.mp sprouted
      exact Shape.sproutAll_cons (SetItem.sprout_shape first) (ih others)

mutual

/-- `Shape.sprout` answers `plain` pieces for the shape of an expression that sprouts. -/
theorem sprout_shape (e : Expr) {s : Sprout} (sprouted : e.sprout = .ok s) :
    e.shape.sprout = .ok s.plain := by
  cases e with
  | token t span =>
      cases sprouted
      rfl
  | group branches span =>
      match branches with
      | [branch] =>
          obtain ⟨ss, below, -, rfl⟩ := sprout_group_one_eq_ok.mp sprouted
          rw [shape, Shape.sprout, sproutAll_shapeAll branch below]
          rfl
      | [] | _ :: _ :: _ =>
          obtain ⟨ss, below, rfl⟩ := (sprout_group_more_eq_ok (by simp)).mp sprouted
          rw [shape, Shape.sprout, Shape.sproutAll_alternative (sproutAll_shapeBranches _ below)]
          · rfl
          · simp
  | set negated items span =>
      obtain ⟨-, ss, below, rfl⟩ := sprout_set_eq_ok.mp sprouted
      rw [shape, Shape.sprout, sproutAll_shapeItems below]
      rfl
  | quantified atom bounds span =>
      obtain ⟨r, made, s, below, rfl⟩ := sprout_quantified_eq_ok.mp sprouted
      rw [Bounds.repetition] at made
      rw [shape, Shape.sprout, made, sprout_shape atom below]
      rfl

theorem sproutAll_shapeAll (es : List Expr) {ss : List Sprout} (sprouted : sproutAll es = .ok ss) :
    Shape.sproutAll (shapeAll es) = .ok (Sprout.plainAll ss) := by
  cases es with
  | nil =>
      cases sprouted
      rfl
  | cons e es =>
      obtain ⟨s, first, ss, others, rfl⟩ := sproutAll_cons_eq_ok.mp sprouted
      exact Shape.sproutAll_cons (sprout_shape e first) (sproutAll_shapeAll es others)

theorem sproutAll_shapeBranches {span : Span} (branches : List (List Expr)) {ss : List Sprout}
    (sprouted : sproutBranches span branches = .ok ss) :
    Shape.sproutAll (shapeBranches branches) = .ok (Sprout.plainAll ss) := by
  match branches with
  | [] =>
      cases sprouted
      rfl
  | [] :: _ => cases sprouted
  | [e] :: branches =>
      obtain ⟨s, first, ss, others, rfl⟩ := sproutBranches_cons_eq_ok.mp sprouted
      have alone : e.sprout = .ok s := by simpa [BranchSprout] using first
      exact Shape.sproutAll_cons (sprout_shape e alone) (sproutAll_shapeBranches branches others)
  | (e :: e' :: es) :: branches =>
      obtain ⟨s, first, ss, others, rfl⟩ := sproutBranches_cons_eq_ok.mp sprouted
      obtain ⟨below, all, rfl⟩ : ∃ below, sproutAll (e :: e' :: es) = .ok below ∧
          .node .group below = s := by
        simpa [BranchSprout] using first
      refine Shape.sproutAll_cons ?_ (sproutAll_shapeBranches branches others)
      rw [Shape.sprout, sproutAll_shapeAll (e :: e' :: es) all]
      rfl

end

theorem sproutAll_shapeAlternation {span : Span} {branches : List Branch} {ss : List Sprout}
    (sprouted : sproutAlternation span branches = .ok ss) :
    Shape.sproutAll (shapeAlternation branches) = .ok (Sprout.plainAll ss) := by
  match branches with
  | [branch] => exact sproutAll_shapeAll branch sprouted
  | [] | _ :: _ :: _ =>
      obtain ⟨below, all, rfl⟩ := (sproutAlternation_more_eq_ok (by simp)).mp sprouted
      exact Shape.sproutAll_alternative (sproutAll_shapeBranches _ all)

end Expr

/-- `Shape.build` makes the `plain` form of the parsed tree from the shapes of a pattern, with the same
    outline and the same draws. The ids count up from zero in preorder. -/
theorem build_shapes_of_parse {pattern : String} {t : Tree} (parsed : parse pattern = .ok t) :
    ∃ ts p, tokenize pattern = .ok ts ∧
      Pattern.ofLexemes (.emptyAt pattern.utf8ByteSize) ts = .ok p ∧
      Shape.build p.shapes = .ok t.plain ∧
      (t.roots = #[0, t.size - 1] ∧ (∃ children, t.get? 0 = some ⟨.opening, none, children⟩) ∧
        t.get? (t.size - 1) = some ⟨.closing, none, #[]⟩) ∧
      (∃ tops, t.subtrees = .ok tops ∧ Subtree.preorderAll tops = List.range t.size) ∧
      (∃ text, t.outline = .ok text ∧ t.plain.outline = .ok text) ∧
      ∀ {σ : Type} [DrawSource σ] (extra : UInt32) (s : σ),
        (⟨t.plain, extra⟩ : Generator).drawFrom s = (⟨t, extra⟩ : Generator).drawFrom s ∧
        ∀ count, (⟨t.plain, extra⟩ : Generator).samplesFrom count s =
          (⟨t, extra⟩ : Generator).samplesFrom count s := by
  obtain ⟨ts, p, tokens, whole, made⟩ := parse_eq_ok.mp parsed
  obtain ⟨nonempty, formed⟩ := whole.formed_any
  obtain ⟨ss, sprouted, rfl⟩ := (Pattern.tree_eq_ok nonempty formed).mp made
  have wf := Expr.wellFormed_sproutAlternation nonempty formed sprouted
  have built := Shape.build_of_sproutAll (Expr.sproutAll_shapeAlternation sprouted) wf.plain
  have last : (Tree.framed ss).size - 1 = 1 + Sprout.sizeAll ss := by
    rw [Tree.size_framed]
    simp [Tree.frame, Sprout.sizeAll, Sprout.size, Nat.add_comm]
  refine ⟨ts, p, tokens, Pattern.ofLexemes_eq_ok.mpr whole, ?_, ⟨?_, ⟨_, Tree.get?_framed_opening⟩, ?_⟩,
    Tree.preorder_framed wf, Tree.outline_framed_plain wf, fun extra s => ⟨?_, fun count => ?_⟩⟩
  · rw [← Tree.framed_plain]
    exact built
  · rw [last]
    exact Builder.roots_framed
  · rw [last]
    exact Tree.get?_framed_closing
  · rw [← Tree.framed_plain, Generator.drawFrom_framed wf.plain, Generator.drawFrom_framed wf,
      Sprout.draw_plain]
  · rw [← Tree.framed_plain]
    exact Generator.samplesFrom_framed wf.plain wf (fun _ => Sprout.draw_plain) count s

/-- The tree of a range between metacharacters beside a branch of two letters. -/
def treeOfRange : Tree :=
  ⟨#[⟨.opening, none, #[1]⟩, ⟨.alternative, some 0, #[2, 4]⟩, ⟨.choice, some 1, #[3]⟩,
    ⟨.characterClass ⟨.plus, .period, rfl, rfl, by decide⟩, some 2, #[]⟩, ⟨.group, some 1, #[5, 6]⟩,
    ⟨.token (.char 'a'), some 4, #[]⟩, ⟨.token (.char 'b'), some 4, #[]⟩, ⟨.closing, none, #[]⟩],
    #[0, 7]⟩

theorem build_shapes_range : parse "[+-.]|ab" = .ok treeOfRange ∧
    ∃ p : Pattern, Shape.build p.shapes = .ok treeOfRange.plain := by
  have parsed : parse "[+-.]|ab" = .ok treeOfRange := by decide +kernel
  obtain ⟨ts, p, -, -, built, -⟩ := build_shapes_of_parse parsed
  exact ⟨parsed, p, built⟩

end PatternSampler
