import Mathlib
import PatternSampler.Proofs.Expr.Grammar

/-! # Conditions on expressions

A condition on single expressions can be asked of an expression and of all those inside it. What the
grammar ensures of every expression is one such condition.
-/

namespace PatternSampler

namespace Expr

mutual

def Everywhere (P : Expr → Prop) : Expr → Prop
  | .token t span => P (.token t span)
  | .group branches span => P (.group branches span) ∧ EverywhereInAll P branches
  | .set negated items span => P (.set negated items span)
  | .quantified atom bounds span => P (.quantified atom bounds span) ∧ atom.Everywhere P

def EverywhereIn (P : Expr → Prop) : List Expr → Prop
  | [] => True
  | e :: es => e.Everywhere P ∧ EverywhereIn P es

def EverywhereInAll (P : Expr → Prop) : List (List Expr) → Prop
  | [] => True
  | es :: branches => EverywhereIn P es ∧ EverywhereInAll P branches

end

end Expr

/-- What the grammar ensures of an expression whose tokens are all `allowed`. -/
def Expr.Formed (allowed : Token → Prop) : Expr → Prop
  | .token t _ => allowed t
  | .group branches _ => branches ≠ []
  | .set _ items _ => items ≠ [] ∧ ∀ item ∈ items, ∀ t ∈ item.tokens, allowed t
  | .quantified _ bounds _ => bounds.min ≤ Bounds.limit ∧ ∀ m ∈ bounds.max, m ≤ Bounds.limit

namespace Grammar

variable {atEnd : Span} {allowed : Token → Prop} {P : Expr → Prop}

theorem Quantifier.limited {ts : List Lexeme} {bounds : Bounds} (quantifier : Quantifier ts bounds) :
    bounds.min ≤ Bounds.limit ∧ ∀ m ∈ bounds.max, m ≤ Bounds.limit := by
  cases quantifier with
  | star | plus | question => decide
  | exactly _ number => exact ⟨number.le_limit, by simpa using number.le_limit⟩
  | atLeast _ number => exact ⟨number.le_limit, by simp⟩
  | range _ number _ number' => exact ⟨number.le_limit, by simpa using number'.le_limit⟩

mutual

theorem Atom.everywhere {ts : List Lexeme} {e : Expr} (atom : Atom atEnd ts e)
    (each : ∀ us e', us <:+: ts → Element atEnd us e' → P e') : e.Everywhere P := by
  cases atom with
  | token alone => exact each _ _ List.infix_rfl (.once (.token alone))
  | set opens content closes => exact each _ _ List.infix_rfl (.once (.set opens content closes))
  | @group opening closing inner branches opens inside closes =>
      refine ⟨each _ _ List.infix_rfl (.once (.group opens inside closes)),
        inside.everywhere fun us e' within => each us e' (within.trans ?_)⟩
      exact ⟨[opening], [closing], by simp⟩
termination_by (sizeOf e, 0)

theorem Element.everywhere {ts : List Lexeme} {e : Expr} (element : Element atEnd ts e)
    (each : ∀ us e', us <:+: ts → Element atEnd us e' → P e') : e.Everywhere P := by
  match element with
  | .once atom => exact atom.everywhere each
  | .quantified atom quantifier =>
      refine ⟨each _ _ List.infix_rfl (.quantified atom quantifier),
        atom.everywhere fun us e' within => each us e' (within.trans ?_)⟩
      exact (List.prefix_append _ _).isInfix
termination_by (sizeOf e, 1)

theorem Elements.everywhere {ts : List Lexeme} {es : Branch} (elements : Elements atEnd ts es)
    (each : ∀ us e', us <:+: ts → Element atEnd us e' → P e') : Expr.EverywhereIn P es := by
  cases elements with
  | nil => trivial
  | cons first others =>
      exact ⟨first.everywhere fun us e' within =>
          each us e' (within.trans (List.prefix_append _ _).isInfix),
        others.everywhere fun us e' within => each us e' (within.trans (List.suffix_append _ _).isInfix)⟩
termination_by (sizeOf es, 0)

theorem Alternation.everywhere {ts : List Lexeme} {branches : List Branch}
    (alternation : Alternation atEnd ts branches)
    (each : ∀ us e', us <:+: ts → Element atEnd us e' → P e') : Expr.EverywhereInAll P branches := by
  cases alternation with
  | one branch => exact ⟨branch.everywhere each, trivial⟩
  | @more ts us bar es branches branch between others =>
      refine ⟨branch.everywhere fun vs e' within =>
          each vs e' (within.trans (List.prefix_append _ _).isInfix),
        others.everywhere fun vs e' within => each vs e' (within.trans ?_)⟩
      exact ⟨ts ++ [bar], [], by simp⟩
termination_by (sizeOf branches, 0)

end

theorem Whole.everywhere {ts : List Lexeme} {p : Pattern} (whole : Whole atEnd ts p)
    (each : ∀ us e, us <:+: ts → Element atEnd us e → P e) : Expr.EverywhereInAll P p.branches := by
  cases whole with
  | @intro before inner after start stop branches caret body dollar =>
      exact body.everywhere fun us e within => each us e (within.trans ⟨before, after, rfl⟩)

theorem Element.formed {ts : List Lexeme} {e : Expr} (element : Element atEnd ts e)
    (each : ∀ l ∈ ts, allowed l.token) : e.Formed allowed := by
  cases element with
  | quantified atom quantifier => exact quantifier.limited
  | once atom =>
      cases atom with
      | token => exact each _ List.mem_cons_self
      | group opens inside closes =>
          obtain ⟨es, others, rfl⟩ := inside.exists_cons
          exact List.cons_ne_nil _ _
      | set opens content closes =>
          refine ⟨SetItem.ofLexemes_ne_nil content.nonempty, fun item member t inside => ?_⟩
          obtain ⟨l, here, rfl⟩ := SetItem.exists_of_mem_tokens member inside
          exact each l (by simp [here])

theorem Whole.formed {ts : List Lexeme} {p : Pattern} (whole : Whole atEnd ts p)
    (each : ∀ l ∈ ts, allowed l.token) :
    p.branches ≠ [] ∧ Expr.EverywhereInAll (Expr.Formed allowed) p.branches := by
  refine ⟨?_, whole.everywhere fun us e within element =>
    element.formed fun l member => each l (within.subset member)⟩
  cases whole with
  | intro caret body dollar =>
      obtain ⟨es, others, rfl⟩ := body.exists_cons
      exact List.cons_ne_nil _ _

theorem Whole.formed_any {ts : List Lexeme} {p : Pattern} (whole : Whole atEnd ts p) :
    p.branches ≠ [] ∧ Expr.EverywhereInAll (Expr.Formed fun _ => True) p.branches :=
  whole.formed fun _ _ => trivial

end Grammar

end PatternSampler
