import Mathlib
import PatternSampler.Proofs.Lists
import PatternSampler.Proofs.Parse.Accepted
import PatternSampler.Proofs.Token.Layout

/-! # Which problem a pattern is refused for

A pattern can have many problems at once. They have an order that can be said without a tree: that of the
elements, a quantifier before what it is put to, and a pair of parentheses before nothing. A pattern has
a tree if it has no problems, and else it is refused for the first of them.
-/

namespace PatternSampler

/-- The problem of a range: that of its first boundary, or else of its last one, or else of both. -/
def SetItem.problems : SetItem → List ParseError
  | single _ => []
  | range first last span =>
    match first.literal?, last.literal? with
    | none, _ => [.invalid (.nonLiteralBoundary first) span]
    | some _, none => [.invalid (.nonLiteralBoundary last) span]
    | some lo, some hi => if hi < lo then [.invalid (.emptyRange lo hi) span] else []

/-- The problem of the bounds of an element that stands in `span`. -/
def Bounds.problems (span : Span) (bounds : Bounds) : List ParseError :=
  match bounds.max with
  | none => []
  | some max =>
    if max < bounds.min then
      [.invalid (.invertedBounds (UInt32.ofNat bounds.min) (UInt32.ofNat max)) span]
    else []

namespace Expr

mutual

def problems : Expr → List ParseError
  | .token _ _ => []
  | .group [[]] span => [.grammar .emptyGroup span]
  | .group [branch] _ => problemsAll branch
  | .group branches span => problemsBranches span branches
  | .set true _ span => [.unsupported .negatedSet span]
  | .set false items _ => items.flatMap SetItem.problems
  | .quantified atom bounds span => bounds.problems span ++ atom.problems

def problemsAll : List Expr → List ParseError
  | [] => []
  | e :: es => e.problems ++ problemsAll es

/-- The problems of several branches that stand in `span`. -/
def problemsBranches (span : Span) : List (List Expr) → List ParseError
  | [] => []
  | [] :: branches => .grammar .emptyBranch span :: problemsBranches span branches
  | branch :: branches => problemsAll branch ++ problemsBranches span branches

end

/-- The problems of an alternation that stands in `span`. -/
def problemsAlternation (span : Span) : List Branch → List ParseError
  | [branch] => problemsAll branch
  | branches => problemsBranches span branches

end Expr

def Pattern.problems (p : Pattern) : List ParseError := Expr.problemsAlternation p.span p.branches

/-! ## Classes and bounds -/

theorem CharacterClass.meets_ofTokens (first last : Token) (span : Span) :
    Meets (SetItem.range first last span).problems
      (ValidationError.at span (ofTokens first last)) := by
  cases first_is : first.literal? with
  | none =>
      rw [ofTokens, dif_neg (by simp [first_is])]
      simp [SetItem.problems, first_is, Meets, ValidationError.at]
  | some lo =>
      cases last_is : last.literal? with
      | none =>
          rw [ofTokens, dif_pos (by simp [first_is]), dif_neg (by simp [last_is])]
          simp [SetItem.problems, first_is, last_is, Meets, ValidationError.at]
      | some hi =>
          rw [ofTokens, dif_pos (by simp [first_is]), dif_pos (by simp [last_is])]
          by_cases inverted : hi < lo
          · rw [dif_neg (by simpa [first_is, last_is] using inverted)]
            simp [SetItem.problems, first_is, last_is, inverted, Meets, ValidationError.at]
          · rw [dif_pos (by simpa [first_is, last_is] using inverted)]
            simp [SetItem.problems, first_is, last_is, inverted, Meets, ValidationError.at]

theorem CharacterClass.exists_refusal {first last : Token} {span : Span} {problem : ParseError}
    (of_range : (SetItem.range first last span).problems.head? = some problem) :
    ∃ source, ofTokens first last = .error source ∧ problem = .invalid source span := by
  have refused := ((meets_ofTokens first last span).error_iff problem).mpr of_range
  cases made : ofTokens first last with
  | ok cls =>
      rw [made] at refused
      cases refused
  | error source =>
      rw [made] at refused
      cases refused
      exact ⟨source, rfl, rfl⟩

theorem Bounds.meets_repetition {bounds : Bounds}
    (limited : bounds.min ≤ limit ∧ ∀ m ∈ bounds.max, m ≤ limit) (span : Span) :
    Meets (bounds.problems span) (ValidationError.at span bounds.repetition) := by
  obtain ⟨min, max⟩ := bounds
  obtain ⟨min_le, max_le⟩ := limited
  cases max with
  | none => exact .of_ok _
  | some max =>
      have order : UInt32.ofNat min ≤ UInt32.ofNat max ↔ min ≤ max := by
        rw [UInt32.le_iff_toNat_le, toNat_ofNat min_le, toNat_ofNat (max_le max rfl)]
      simp only [problems, repetition, Option.map_some, Repetition.ofBounds]
      by_cases inverted : max < min
      · rw [if_pos inverted, dif_neg (by rwa [order, not_le])]
        rfl
      · rw [if_neg inverted, dif_pos (by rwa [order, ← not_lt])]
        exact .of_ok _

namespace Expr

variable {allowed : Token → Prop}

theorem meets_sproutItems (items : List SetItem) :
    Meets (items.flatMap SetItem.problems) (sproutItems items) := by
  induction items with
  | nil => exact .of_ok []
  | cons item items ih =>
      have first : Meets item.problems item.sprout := by
        cases item with
        | single t => exact .of_ok _
        | range first last span =>
            exact (CharacterClass.meets_ofTokens first last span).bind_ok fun cls _ => ⟨_, rfl⟩
      exact first.bind fun s _ => ih.bind_ok fun ss _ => ⟨_, rfl⟩

mutual

/-- `Expr.sprout` fails with the first of `Expr.problems`, and succeeds if there are none. -/
theorem meets_sprout {e : Expr} (formed : e.Everywhere (Formed allowed)) :
    Meets e.problems e.sprout := by
  cases e with
  | token t span => exact .of_ok _
  | group branches span =>
      match branches with
      | [[]] => rfl
      | [e :: es] =>
          rw [problems, sprout]
          · refine (meets_sproutAll formed.2.1).bind_ok fun ss all => ?_
            obtain ⟨s, -, ss, -, rfl⟩ := sproutAll_cons_eq_ok.mp all
            exact ⟨_, rfl⟩
          · simp
      | [] | _ :: _ :: _ =>
          rw [problems, sprout]
          · exact (meets_sproutBranches span formed.2).bind_ok fun ss _ => ⟨_, rfl⟩
          all_goals simp
  | set negated items span =>
      cases negated with
      | true => rfl
      | false => exact (meets_sproutItems items).bind_ok fun ss _ => ⟨_, rfl⟩
  | quantified atom bounds span =>
      exact (Bounds.meets_repetition formed.1 span).bind fun r _ =>
        (meets_sprout formed.2).bind_ok fun s _ => ⟨_, rfl⟩

theorem meets_sproutAll {es : List Expr} (formed : EverywhereIn (Formed allowed) es) :
    Meets (problemsAll es) (sproutAll es) := by
  cases es with
  | nil => exact .of_ok []
  | cons e es =>
      exact (meets_sprout formed.1).bind fun s _ =>
        (meets_sproutAll formed.2).bind_ok fun ss _ => ⟨_, rfl⟩

theorem meets_sproutBranches (span : Span) {branches : List (List Expr)}
    (formed : EverywhereInAll (Formed allowed) branches) :
    Meets (problemsBranches span branches) (sproutBranches span branches) := by
  match branches with
  | [] => exact .of_ok []
  | [] :: branches => rfl
  | [e] :: branches =>
      rw [problemsBranches, sproutBranches, problemsAll, problemsAll, List.append_nil]
      · exact (meets_sprout formed.1.1).bind fun s _ =>
          (meets_sproutBranches span formed.2).bind_ok fun ss _ => ⟨_, rfl⟩
      · simp
  | (e :: e' :: es) :: branches =>
      rw [problemsBranches, sproutBranches]
      · exact (meets_sproutAll formed.1).bind fun s _ =>
          (meets_sproutBranches span formed.2).bind_ok fun ss _ => ⟨_, rfl⟩
      all_goals simp

end

theorem meets_sproutAlternation (span : Span) {branches : List Branch}
    (formed : EverywhereInAll (Formed allowed) branches) :
    Meets (problemsAlternation span branches) (sproutAlternation span branches) := by
  match branches with
  | [branch] => exact meets_sproutAll formed.1
  | [] | _ :: _ :: _ =>
      rw [problemsAlternation, sproutAlternation]
      · exact (meets_sproutBranches span formed).bind_ok fun ss _ => ⟨_, rfl⟩
      all_goals simp

end Expr

/-! ## Whose problem it is -/

namespace Expr

/-- The problem is one of the expression itself, and not of one inside it. -/
def Owns : Expr → ParseError → Prop
  | .token _ _, _ => False
  | .group _ span, problem =>
    problem = .grammar .emptyGroup span ∨ problem = .grammar .emptyBranch span
  | .set _ items span, problem =>
    problem = .unsupported .negatedSet span ∨ ∃ item ∈ items, item.problems.head? = some problem
  | .quantified _ bounds span, problem => problem ∈ bounds.problems span

variable {P : Expr → Prop} {problem : ParseError}

mutual

/-- The first of `Expr.problems` is the first one of an inner expression that `Owns` it. -/
theorem exists_owner {e : Expr} (everywhere : e.Everywhere P) (first : e.problems.head? = some problem) :
    ∃ e', P e' ∧ e'.problems.head? = some problem ∧ e'.Owns problem := by
  cases e with
  | token t span => cases first
  | group branches span =>
      match branches with
      | [[]] =>
          refine ⟨_, everywhere.1, first, ?_⟩
          cases first
          exact .inl rfl
      | [e :: es] => exact exists_owner_all everywhere.2.1 first
      | [] | _ :: _ :: _ =>
          have below := first
          rw [problems] at below
          · rcases exists_owner_branches everywhere.2 below with rfl | inside
            · exact ⟨_, everywhere.1, first, .inr rfl⟩
            · exact inside
          all_goals simp
  | set negated items span =>
      refine ⟨_, everywhere, first, ?_⟩
      cases negated with
      | true =>
          cases first
          exact .inl rfl
      | false =>
          rw [problems, List.head?_flatMap] at first
          exact .inr (List.exists_of_findSome?_eq_some first)
  | quantified atom bounds span =>
      rcases head?_append_eq_some first with here | below
      · exact ⟨_, everywhere.1, first, List.mem_of_head? here⟩
      · exact exists_owner everywhere.2 below

theorem exists_owner_all {es : List Expr} (everywhere : EverywhereIn P es)
    (first : (problemsAll es).head? = some problem) :
    ∃ e', P e' ∧ e'.problems.head? = some problem ∧ e'.Owns problem := by
  cases es with
  | nil => cases first
  | cons e es =>
      rcases head?_append_eq_some first with here | later
      · exact exists_owner everywhere.1 here
      · exact exists_owner_all everywhere.2 later

theorem exists_owner_branches {span : Span} {branches : List (List Expr)}
    (everywhere : EverywhereInAll P branches)
    (first : (problemsBranches span branches).head? = some problem) :
    problem = .grammar .emptyBranch span ∨
      ∃ e', P e' ∧ e'.problems.head? = some problem ∧ e'.Owns problem := by
  match branches with
  | [] => cases first
  | [] :: branches => exact .inl (Option.some.inj first).symm
  | (e :: es) :: branches =>
      rcases head?_append_eq_some first with here | later
      · exact .inr (exists_owner_all everywhere.1 here)
      · exact exists_owner_branches everywhere.2 later

end

end Expr

theorem Pattern.exists_owner {P : Expr → Prop} {p : Pattern} {problem : ParseError}
    (everywhere : Expr.EverywhereInAll P p.branches) (first : p.problems.head? = some problem) :
    problem = .grammar .emptyBranch p.span ∨
      ∃ e, P e ∧ e.problems.head? = some problem ∧ e.Owns problem := by
  obtain ⟨start, stop, branches, span⟩ := p
  match branches with
  | [branch] => exact .inr (Expr.exists_owner_all everywhere.1 first)
  | [] | _ :: _ :: _ =>
      rw [problems, Expr.problemsAlternation] at first
      · exact Expr.exists_owner_branches everywhere first
      · simp

/-! ## Whole patterns -/

theorem Pattern.meets_tree {atEnd : Span} {ts : List Lexeme} {p : Pattern}
    (whole : Grammar.Whole atEnd ts p) : Meets p.problems p.tree := by
  obtain ⟨nonempty, formed⟩ := whole.formed_any
  rw [tree_eq nonempty formed]
  exact (Expr.meets_sproutAlternation p.span formed).bind_ok fun ss _ => ⟨_, rfl⟩

/-- `parse` fails with the first of `Pattern.problems`, and succeeds if there are none. -/
theorem parse_meets_problems {pattern : String} {ts : List Lexeme} {p : Pattern}
    (tokens : tokenize pattern = .ok ts)
    (read : Pattern.ofLexemes (.emptyAt pattern.utf8ByteSize) ts = .ok p) :
    (∀ e, parse pattern = .error e ↔ p.problems.head? = some e) ∧
      ((∃ t, parse pattern = .ok t) ↔ p.problems = []) := by
  have meets := Pattern.meets_tree (Pattern.ofLexemes_eq_ok.mp read)
  have made : parse pattern = p.tree := by simp only [parse, tokens, parseLexemes, read]
  rw [made]
  exact ⟨meets.error_iff, meets.ok_iff⟩

/-- The bounds come before the range in what they repeat, and the missing branch comes last. -/
theorem parse_meets_problems_bounds :
    let ts := Token.layout 0 [.openBracket, .char 'z', .dash, .char 'a', .closeBracket, .openBrace,
      .char '3', .comma, .char '1', .closeBrace, .pipe]
    tokenize "[z-a]{3,1}|" = .ok ts ∧ ∃ p, Pattern.ofLexemes (.emptyAt 11) ts = .ok p ∧
      p.problems = [.invalid (.invertedBounds 3 1) ⟨0, 10⟩, .invalid (.emptyRange 'z' 'a') ⟨1, 4⟩,
        .grammar .emptyBranch ⟨0, 11⟩] ∧
      parse "[z-a]{3,1}|" = .error (.invalid (.invertedBounds 3 1) ⟨0, 10⟩) := by
  intro ts
  have tokens : tokenize "[z-a]{3,1}|" = .ok ts := by decide +kernel
  have all : Pattern.problems <$> Pattern.ofLexemes (.emptyAt 11) ts =
      .ok [.invalid (.invertedBounds 3 1) ⟨0, 10⟩, .invalid (.emptyRange 'z' 'a') ⟨1, 4⟩,
        .grammar .emptyBranch ⟨0, 11⟩] := by decide +kernel
  cases read : Pattern.ofLexemes (.emptyAt 11) ts with
  | error r =>
      rw [read] at all
      cases all
  | ok p =>
      rw [read] at all
      have problems := Except.ok.inj all
      refine ⟨tokens, p, rfl, problems, ?_⟩
      rw [(parse_meets_problems tokens read).1, problems]
      rfl

end PatternSampler
