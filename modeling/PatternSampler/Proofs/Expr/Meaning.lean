import Mathlib
import PatternSampler.Proofs.Expr.Everywhere

/-! # What patterns mean

A pattern is read as a regular expression here, with no tree in between. A text is matched as a whole,
which is all that the anchors of a pattern ask for. What an escape stands for is left open.
-/

namespace PatternSampler

variable (escapes : Char → Language Char)

/-- Outside of a set a period is any character but a line feed, and other tokens stand for themselves. -/
def Token.meaning : Token → Language Char
  | .escape c => escapes c
  | .period => {w | ∃ c, c ≠ '\n' ∧ w = [c]}
  | t => {t.spelling}

/-- Inside of a set all tokens stand for themselves. -/
def SetItem.meaning : SetItem → Language Char
  | .single (.escape c) => escapes c
  | .single t => {t.spelling}
  | .range first last _ =>
    {w | ∃ lo ∈ first.literal?, ∃ hi ∈ last.literal?, ∃ c, lo ≤ c ∧ c ≤ hi ∧ w = [c]}

/-- As many texts of a language as the bounds admit, one after the other. -/
def Bounds.meaning (bounds : Bounds) (texts : Language Char) : Language Char :=
  {w | ∃ n, bounds.min ≤ n ∧ (∀ m ∈ bounds.max, n ≤ m) ∧ w ∈ texts ^ n}

namespace Expr

mutual

def meaning : Expr → Language Char
  | .token t _ => t.meaning escapes
  | .group branches _ => meaningAny branches
  | .set false items _ => {w | ∃ item ∈ items, w ∈ item.meaning escapes}
  | .set true items _ => {w | ∃ c, w = [c] ∧ ∀ item ∈ items, w ∉ item.meaning escapes}
  | .quantified atom bounds _ => bounds.meaning atom.meaning

def meaningAll : List Expr → Language Char
  | [] => 1
  | e :: es => e.meaning * meaningAll es

def meaningAny : List (List Expr) → Language Char
  | [] => 0
  | es :: branches => meaningAll es + meaningAny branches

end

end Expr

def Pattern.meaning (p : Pattern) : Language Char := Expr.meaningAny escapes p.branches

/-! ## Without escapes -/

variable {escapes}

theorem Token.meaning_of_not_escape {t : Token} (plain : t.isEscape = false)
    (other : Char → Language Char) : t.meaning escapes = t.meaning other := by
  cases t with
  | escape c => cases plain
  | _ => rfl

theorem SetItem.meaning_of_not_escape {item : SetItem} (plain : ∀ t ∈ item.tokens, t.isEscape = false)
    (other : Char → Language Char) : item.meaning escapes = item.meaning other := by
  cases item with
  | range => rfl
  | single t =>
      have plain := plain t List.mem_cons_self
      cases t with
      | escape c => cases plain
      | _ => rfl

namespace Expr

mutual

/-- `Expr.meaning` does not depend on what escapes stand for where no token is an escape. -/
theorem meaning_of_no_escape {e : Expr} (formed : e.Everywhere (Formed (·.isEscape = false)))
    (other : Char → Language Char) : e.meaning escapes = e.meaning other := by
  cases e with
  | token t span => exact Token.meaning_of_not_escape formed other
  | group branches span => exact meaningAny_of_no_escape formed.2 other
  | set negated items span =>
      have same : ∀ item ∈ items, item.meaning escapes = item.meaning other :=
        fun item member => SetItem.meaning_of_not_escape (formed.2 item member) other
      cases negated with
      | false =>
          refine Language.ext fun w => exists_congr fun item => and_congr_right fun member => ?_
          rw [same item member]
      | true =>
          refine Language.ext fun w => exists_congr fun c => and_congr_right fun _ => ?_
          refine forall₂_congr fun item member => ?_
          rw [same item member]
  | quantified atom bounds span =>
      exact congrArg bounds.meaning (meaning_of_no_escape formed.2 other)

theorem meaningAll_of_no_escape {es : List Expr}
    (formed : EverywhereIn (Formed (·.isEscape = false)) es) (other : Char → Language Char) :
    meaningAll escapes es = meaningAll other es := by
  cases es with
  | nil => rfl
  | cons e es =>
      rw [meaningAll, meaningAll, meaning_of_no_escape formed.1 other,
        meaningAll_of_no_escape formed.2 other]

theorem meaningAny_of_no_escape {branches : List (List Expr)}
    (formed : EverywhereInAll (Formed (·.isEscape = false)) branches)
    (other : Char → Language Char) : meaningAny escapes branches = meaningAny other branches := by
  cases branches with
  | nil => rfl
  | cons es branches =>
      rw [meaningAny, meaningAny, meaningAll_of_no_escape formed.1 other,
        meaningAny_of_no_escape formed.2 other]

end

end Expr

theorem Pattern.meaning_of_no_escape {atEnd : Span} {ts : List Lexeme} {p : Pattern}
    (whole : Grammar.Whole atEnd ts p) (plain : ∀ l ∈ ts, l.token.isEscape = false)
    (other : Char → Language Char) : p.meaning escapes = p.meaning other :=
  Expr.meaningAny_of_no_escape (whole.formed plain).2 other

end PatternSampler
