import Mathlib
import PatternSampler.Parse
import PatternSampler.Proofs.Expr.Patterns
import PatternSampler.Proofs.Expr.Prefixes

/-! # Where a pattern is refused

A refusal is that of a bound which is too large, or that of the first token that cannot stand where it
stands: the tokens before it can still become a pattern, together with it they cannot. -/

namespace PatternSampler

open Grammar

variable {atEnd : Span} {ts before : List Lexeme} {d : Nat}

namespace Refusal

/-- The refusal of a bound that is too large. It stands at all the digits that follow the opening brace
    of a quantifier, or its first bound and the comma, and it quotes them. -/
def OfBound (atEnd : Span) (ts : List Lexeme) (r : Refusal) : Prop :=
  ∃ before digits rest : List Lexeme, ts = before ++ digits ++ rest ∧
    (∃ d, AtMinimum atEnd d before ∨ AtMaximum atEnd d before) ∧
    digits ≠ [] ∧ (∀ l ∈ digits, l.token.isDigit) ∧ (∀ l ∈ rest.head?, l.token.isDigit = false) ∧
    Bounds.limit < numeral (digits.map (·.token)) ∧
    r.span = .since atEnd digits [] ∧
    r.problem.message =
      "repetition bound `" ++ String.ofList (digits.flatMap (·.token.spelling)) ++ "` exceeds "
        ++ toString Bounds.limit

/-- The refusal of what comes after `before`, with which no pattern can begin that begins with `before`. -/
def OfNext (atEnd : Span) (ts : List Lexeme) (r : Refusal) : Prop :=
  ∃ before rest : List Lexeme, ts = before ++ rest ∧
    (∃ more p, Pattern.ofLexemes atEnd (before ++ more) = .ok p) ∧
    (∀ l ∈ rest.head?, ∀ more p, Pattern.ofLexemes atEnd (before ++ l :: more) ≠ .ok p) ∧
    (rest = [] → r.span = atEnd ∧ r.problem.message = "unexpected end of pattern") ∧
    ∀ l ∈ rest.head?, r.span = l.span ∧
      ((∃ d, AtMinimum atEnd d before) →
        r.problem.message = "expected a digit, found `" ++ l.token.text ++ "`") ∧
      ((¬∃ d, AtMinimum atEnd d before) → r.problem.message = "unexpected `" ++ l.token.text ++ "`")

end Refusal

namespace Place

variable {q : Place} {rest : List Lexeme}

/-- Tokens that `Place.run` takes can be completed to a pattern, unless they end within a bound that is
    `Excessive` already. -/
theorem exists_ofLexemes_eq_ok (reached : run .start before = some q)
    (small : ∀ d ds, q = .minimum d ds ∨ q = .maximum d ds → ¬Excessive ds) :
    ∃ more p, Pattern.ofLexemes atEnd (before ++ more) = .ok p := by
  obtain ⟨more, finished⟩ := @exists_end atEnd q small
  cases read : Pattern.ofLexemes atEnd (before ++ more) with
  | ok p => exact ⟨more, p, read⟩
  | error r =>
      obtain ⟨s, fault, -⟩ := Pattern.ofLexemes_eq_error.mp read
      rw [fault_append reached, finished] at fault
      cases fault

theorem ofLexemes_ne_ok {l : Lexeme} (reached : run .start before = some q) (stuck : q.next? l = none)
    (more : List Lexeme) (p : Pattern) : Pattern.ofLexemes atEnd (before ++ l :: more) ≠ .ok p := by
  intro read
  have none_wrong := fault_whole (Pattern.ofLexemes_eq_ok.mp read)
  rw [fault_append reached, fault_refused stuck] at none_wrong
  cases none_wrong

theorem not_isDigit_of_stuck {ds : List Lexeme} (place : q = .minimum d ds ∨ q = .maximum d ds)
    (stuck : ∀ l ∈ rest.head?, q.next? l = none) : ∀ l ∈ rest.head?, l.token.isDigit = false := by
  intro l first
  have step := stuck l first
  cases digit : l.token.isDigit with
  | false => rfl
  | true => rcases place with rfl | rfl <;> rw [next?, if_pos digit] at step <;> cases step

theorem ofBound_of_excessive {ds : List Lexeme} (place : q = .minimum d ds ∨ q = .maximum d ds)
    (reached : run .start before = some q) (large : Excessive ds)
    (stuck : ∀ l ∈ rest.head?, q.next? l = none) :
    Refusal.OfBound atEnd (before ++ rest) (q.refusal atEnd rest).refusal := by
  have no_digit := not_isDigit_of_stuck place stuck
  have follows : q.Follows atEnd ([] ++ before) := Follows.run (q := .start) rfl reached
  rcases place with rfl | rfl
  · obtain ⟨outer, place, ⟨nonempty, digits⟩, eq⟩ := follows
    refine ⟨outer, ds, rest, by rw [← eq, List.nil_append], ⟨d, .inl place⟩, nonempty, digits, no_digit,
      large, ?_⟩
    rw [refusal, if_pos large]
    exact ⟨rfl, rfl⟩
  · obtain ⟨outer, place, ⟨nonempty, digits⟩, eq⟩ := follows
    refine ⟨outer, ds, rest, by rw [← eq, List.nil_append], ⟨d, .inr place⟩, nonempty, digits, no_digit,
      large, ?_⟩
    rw [refusal, if_pos large]
    exact ⟨rfl, rfl⟩

theorem refusal_eq_here (not_bounds : ∀ d, q ≠ .bounds d)
    (small : ∀ d ds, q = .minimum d ds ∨ q = .maximum d ds → ¬Excessive ds) :
    q.refusal atEnd rest = .here atEnd .unexpected rest := by
  cases q with
  | bounds d => exact absurd rfl (not_bounds d)
  | minimum d ds => exact if_neg (small d ds (.inl rfl))
  | maximum d ds => exact if_neg (small d ds (.inr rfl))
  | start | element | atom | set | mark | items | comma | anchored => rfl

theorem ofNext_of_stuck (reached : run .start before = some q)
    (small : ∀ d ds, q = .minimum d ds ∨ q = .maximum d ds → ¬Excessive ds)
    (stuck : ∀ l ∈ rest.head?, q.next? l = none) :
    Refusal.OfNext atEnd (before ++ rest) (q.refusal atEnd rest).refusal := by
  refine ⟨before, rest, rfl, exists_ofLexemes_eq_ok reached small,
    fun l first => ofLexemes_ne_ok reached (stuck l first), ?_, ?_⟩
  · rintro rfl
    by_cases bounds : ∃ d, q = .bounds d
    · obtain ⟨d, rfl⟩ := bounds
      exact ⟨rfl, rfl⟩
    · rw [refusal_eq_here (fun d eq => bounds ⟨d, eq⟩) small]
      exact ⟨rfl, rfl⟩
  · intro l first
    obtain ⟨rest, rfl⟩ := List.head?_eq_some_iff.mp first
    by_cases bounds : ∃ d, q = .bounds d
    · obtain ⟨d, rfl⟩ := bounds
      have follows : (Place.bounds d).Follows atEnd ([] ++ before) := Follows.run (q := .start) rfl reached
      exact ⟨rfl, fun _ => rfl, fun other => absurd ⟨d, follows⟩ other⟩
    · rw [refusal_eq_here (fun d eq => bounds ⟨d, eq⟩) small]
      refine ⟨rfl, fun ⟨d, place⟩ => ?_, fun _ => rfl⟩
      have eq := (run_atMinimum place).symm.trans reached
      exact absurd ⟨d, (Option.some.inj eq).symm⟩ bounds

end Place

/-- `parseLexemes` reports the refusal of `Pattern.ofLexemes`, which is `OfBound`, for a number that is too
    large, or `OfNext`, for the first token with which no pattern can begin any more. -/
theorem Pattern.refusal_of_ofLexemes {length : Nat} {r : Refusal}
    (refused : ofLexemes (.emptyAt length) ts = .error r) :
    parseLexemes ts length = .error (.grammar r.problem r.span) ∧
      (r.OfBound (.emptyAt length) ts ∨ r.OfNext (.emptyAt length) ts) := by
  refine ⟨by rw [parseLexemes, refused], ?_⟩
  obtain ⟨s, fault, rfl⟩ := ofLexemes_eq_error.mp refused
  obtain ⟨before, rest, q, rfl, reached, rfl, stuck⟩ := Place.exists_of_fault_eq_some fault
  by_cases large : ∃ d ds, (q = .minimum d ds ∨ q = .maximum d ds) ∧ Place.Excessive ds
  · obtain ⟨d, ds, place, large⟩ := large
    exact .inl (Place.ofBound_of_excessive place reached large stuck)
  · exact .inr (Place.ofNext_of_stuck reached (fun d ds place excessive =>
      large ⟨d, ds, place, excessive⟩) stuck)

theorem Pattern.refusal_of_missing_digit :
    let ts : List Lexeme := [⟨.char 'a', 0, 1⟩, ⟨.openBrace, 1, 2⟩, ⟨.char 'x', 2, 3⟩]
    let r : Refusal := ⟨.notADigit (.char 'x'), 2, 3⟩
    ofLexemes (.emptyAt 3) ts = .error r ∧
      parseLexemes ts 3 = .error (.grammar r.problem r.span) ∧
      (r.OfBound (.emptyAt 3) ts ∨ r.OfNext (.emptyAt 3) ts) := by
  intro ts r
  have refused : ofLexemes (.emptyAt 3) ts = .error r := ofLexemes_eq_error.mpr ⟨_, rfl, rfl⟩
  exact ⟨refused, refusal_of_ofLexemes refused⟩

end PatternSampler
