import Mathlib
import PatternSampler.Proofs.Parse.Problems

/-! # No push is refused

What is wrong with a pattern is wrong before a node is pushed for it: a range, a boundary or the bounds
of a quantifier. The builder itself has nothing to say against a pattern. Nodes are pushed under nodes
that can have children, and once a pattern is through every node has as many as its kind asks for.
-/

namespace PatternSampler

/-- The problem is one with what a pattern says, and not with how its tree is built. -/
def ValidationError.IsWritten : ValidationError → Prop
  | .emptyRange .. | .nonLiteralBoundary _ | .invertedBounds .. => True
  | .emptyNode _ | .leafParent _ | .unknownNode _ => False

variable {source : ValidationError} {span : Span} {problem : ParseError}

theorem SetItem.exists_written_of_problem {item : SetItem} (member : problem ∈ item.problems) :
    ∃ source span, problem = .invalid source span ∧ source.IsWritten := by
  cases item with
  | single => cases member
  | range first last place =>
      rw [problems] at member
      split at member
      · exact ⟨_, _, List.mem_singleton.mp member, trivial⟩
      · exact ⟨_, _, List.mem_singleton.mp member, trivial⟩
      · split_ifs at member
        · exact ⟨_, _, List.mem_singleton.mp member, trivial⟩
        · cases member

theorem Bounds.exists_written_of_problem {bounds : Bounds} {place : Span}
    (member : problem ∈ bounds.problems place) :
    ∃ source span, problem = .invalid source span ∧ source.IsWritten := by
  rw [problems] at member
  split at member
  · cases member
  · split_ifs at member
    · exact ⟨_, _, List.mem_singleton.mp member, trivial⟩
    · cases member

theorem Expr.Owns.written_or_whole {e : Expr} (owns : e.Owns problem) :
    (∃ source span, problem = .invalid source span ∧ source.IsWritten) ∨
      ∃ span, problem = .grammar .emptyGroup span ∨ problem = .grammar .emptyBranch span ∨
        problem = .unsupported .negatedSet span := by
  cases e with
  | token => exact owns.elim
  | group branches span =>
      rcases owns with rfl | rfl
      · exact .inr ⟨span, .inl rfl⟩
      · exact .inr ⟨span, .inr (.inl rfl)⟩
  | set negated items span =>
      rcases owns with rfl | ⟨item, -, first⟩
      · exact .inr ⟨span, .inr (.inr rfl)⟩
      · exact .inl (SetItem.exists_written_of_problem (List.mem_of_head? first))
  | quantified => exact .inl (Bounds.exists_written_of_problem owns)

theorem Pattern.written_or_whole_of_tree {atEnd : Span} {ts : List Lexeme} {p : Pattern}
    (whole : Grammar.Whole atEnd ts p) (refused : p.tree = .error problem) :
    (∃ source span, problem = .invalid source span ∧ source.IsWritten) ∨
      ∃ span, problem = .grammar .emptyGroup span ∨ problem = .grammar .emptyBranch span ∨
        problem = .unsupported .negatedSet span := by
  have first := ((meets_tree whole).error_iff _).mp refused
  rcases exists_owner whole.formed_any.2 first with rfl | ⟨e, -, -, owns⟩
  · exact .inr ⟨p.span, .inr (.inl rfl)⟩
  · exact owns.written_or_whole

/-- `Pattern.tree` is refused only for what `IsWritten` in the pattern. -/
theorem Pattern.isWritten_of_tree {atEnd : Span} {ts : List Lexeme} {p : Pattern}
    (whole : Grammar.Whole atEnd ts p) (refused : p.tree = .error (.invalid source span)) :
    source.IsWritten := by
  rcases written_or_whole_of_tree whole refused with ⟨_, _, eq, written⟩ | ⟨_, eq | eq | eq⟩
  · cases eq
    exact written
  all_goals cases eq

namespace Pattern

variable {atEnd : Span} {ts : List Lexeme} {p : Pattern} {b : Builder}

/-- Once `addAlternationTo` is through, every node is `Filled` and `finish` succeeds. -/
theorem filled_of_added (whole : Grammar.Whole atEnd ts p)
    (added : Expr.addAlternationTo (Builder.empty.root .opening).1 p.span p.branches
      (Builder.empty.root .opening).2 = .ok b) :
    (∀ n ∈ b.nodes, n.kind.Filled n.children.size) ∧
      ∃ t, (b.root .closing).2.finish = .ok t ∧ p.tree = .ok t := by
  obtain ⟨nonempty, formed⟩ := whole.formed_any
  have bears : (Builder.empty.root .opening).2.Bears 0 := ⟨_, rfl, rfl⟩
  have grafted := added
  rw [show (Builder.empty.root .opening).1 = 0 from rfl, Expr.addAlternationTo_eq _ _ bears,
    map_eq_ok] at grafted
  obtain ⟨ss, sprouted, rfl⟩ := grafted
  have filled := Expr.filled_sproutAlternation nonempty formed sprouted
  refine ⟨fun n member => ?_, _, Builder.finish_framed filled.wellFormed,
    (tree_eq_ok nonempty formed).mpr ⟨ss, sprouted, rfl⟩⟩
  rw [← Array.mem_toList_iff, Builder.nodes_graft] at member
  rcases List.mem_append.mp member with opening | below
  · cases List.mem_singleton.mp opening
    trivial
  · exact filled.nodes below

end Pattern

/-- `parseLexemes` reports as invalid only what `IsWritten`: a range, a boundary or the bounds of a
    quantifier. Where the branches of a pattern can be added, every node is `Filled` and `finish` succeeds.
    -/
theorem parseLexemes_filled (ts : List Lexeme) (length : Nat) :
    (∀ source span, parseLexemes ts length = .error (.invalid source span) → source.IsWritten) ∧
      ∀ p, Pattern.ofLexemes (.emptyAt length) ts = .ok p →
        ∀ b, Expr.addAlternationTo (Builder.empty.root .opening).1 p.span p.branches
            (Builder.empty.root .opening).2 = .ok b →
          (∀ n ∈ b.nodes, n.kind.Filled n.children.size) ∧
            ∃ t, (b.root .closing).2.finish = .ok t ∧ parseLexemes ts length = .ok t := by
  refine ⟨fun source span refused => ?_, fun p read b added => ?_⟩
  · cases read : Pattern.ofLexemes (.emptyAt length) ts with
    | error e =>
        simp only [parseLexemes, read] at refused
        cases refused
    | ok p =>
        simp only [parseLexemes, read] at refused
        exact Pattern.isWritten_of_tree (Pattern.ofLexemes_eq_ok.mp read) refused
  · simp only [parseLexemes, read]
    exact Pattern.filled_of_added (Pattern.ofLexemes_eq_ok.mp read) added

theorem parseLexemes_filled_unplaced :
    let ts : List Lexeme := [.char 'a', .pipe, .openParen, .char 'b', .closeParen].map (⟨·, 0, 0⟩)
    ∃ p b t, Pattern.ofLexemes (.emptyAt 0) ts = .ok p ∧
      Expr.addAlternationTo 0 p.span p.branches (Builder.empty.root .opening).2 = .ok b ∧
      (∀ n ∈ b.nodes, n.kind.Filled n.children.size) ∧ parseLexemes ts 0 = .ok t := by
  intro ts
  have added : (match Pattern.ofLexemes (.emptyAt 0) ts with
      | .ok p => (Expr.addAlternationTo 0 p.span p.branches (Builder.empty.root .opening).2).isOk
      | .error _ => false) = true := by decide +kernel
  cases read : Pattern.ofLexemes (.emptyAt 0) ts with
  | error e =>
      rw [read] at added
      cases added
  | ok p =>
      simp only [read] at added
      cases made : Expr.addAlternationTo 0 p.span p.branches (Builder.empty.root .opening).2 with
      | error e =>
          rw [made] at added
          cases added
      | ok b =>
          obtain ⟨filled, t, -, parsed⟩ := (parseLexemes_filled ts 0).2 p read b made
          exact ⟨p, b, t, rfl, made, filled, parsed⟩

end PatternSampler
