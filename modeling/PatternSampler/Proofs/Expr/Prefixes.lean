import Mathlib
import PatternSampler.Proofs.Expr.Place

/-! # What stands before a place

Which tokens lead to a place can be said in terms of the grammar, without following them. One step keeps
this, and so does a run.
-/

namespace PatternSampler

namespace Place

open Grammar

variable {atEnd : Span} {q q' : Place} {d : Nat} {l : Lexeme} {ts before : List Lexeme}

theorem run_atElement (place : AtElement atEnd d before) :
    ∃ q : Place, q.Opens d ∧ run .start before = some q := by
  induction place with
  | @top mark ts start branches caret body =>
      obtain ⟨q, opens, marked⟩ := run_caret caret
      obtain ⟨q', opens', reached⟩ := run_alternation body opens
      exact ⟨q', opens', by rw [run_append marked, reached]⟩
  | @inside d outer ts opening branches place opens body ih =>
      obtain ⟨q, opens', reached⟩ := ih
      have inner : Opens (d + 1) (.element (d + 1)) := .inl rfl
      obtain ⟨q', opens'', reached'⟩ := run_alternation body inner
      refine ⟨q', opens'', ?_⟩
      rw [run_append reached, run_cons (opens'.next? opens rfl)]
      exact reached'

theorem run_atMinimum (place : AtMinimum atEnd d before) : run .start before = some (.bounds d) := by
  cases place with
  | intro place opens =>
      cases place with
      | intro place atom =>
          obtain ⟨q, opens', reached⟩ := run_atElement place
          rw [List.append_assoc, run_append reached, run_append (run_atom atom opens'),
            run_cons (next?_openBrace opens), run]

def Digits (ts : List Lexeme) : Prop := ts ≠ [] ∧ ∀ l ∈ ts, l.token.isDigit

theorem Digits.one (digit : l.token.isDigit) : Digits [l] := ⟨by simp, by simpa using digit⟩

theorem Digits.concat (digits : Digits ts) (digit : l.token.isDigit) : Digits (ts ++ [l]) :=
  ⟨by simp, by simpa [or_imp, forall_and] using ⟨digits.2, digit⟩⟩

/-- What the tokens before a place are, in terms of the grammar. -/
def Follows (atEnd : Span) : Place → List Lexeme → Prop
  | start, before => before = []
  | element d, before => AtElement atEnd d before
  | atom d, before => AtQuantifier atEnd d before
  | set d, before => ∃ outer opening, AtElement atEnd d outer ∧ opening.token = .openBracket ∧
      before = outer ++ [opening]
  | mark d, before => ∃ outer opening caret, AtElement atEnd d outer ∧ opening.token = .openBracket ∧
      caret.token = .caret ∧ before = outer ++ [opening, caret]
  | items d, before => ∃ outer opening mark ts negated, AtElement atEnd d outer ∧
      opening.token = .openBracket ∧ Content mark ts negated ∧
      before = outer ++ opening :: (mark ++ ts)
  | bounds d, before => AtMinimum atEnd d before
  | minimum d digits, before => ∃ outer, AtMinimum atEnd d outer ∧ Digits digits ∧
      before = outer ++ digits
  | comma d, before => AtMaximum atEnd d before
  | maximum d digits, before => ∃ outer, AtMaximum atEnd d outer ∧ Digits digits ∧
      before = outer ++ digits
  | anchored, before => ∃ outer dollar, AtElement atEnd 0 outer ∧ dollar.token = .dollar ∧
      before = outer ++ [dollar]

theorem follows_elementNext? (place : AtElement atEnd d before)
    (h : elementNext? d l.token = some q') : q'.Follows atEnd (before ++ [l]) := by
  unfold elementNext? at h
  split at h
  · rename_i alone
    cases h
    exact .intro place (.token alone)
  · split at h
    · rename_i bracket
      cases h
      exact ⟨before, l, place, bracket, rfl⟩
    · rename_i paren
      cases h
      exact .inside place paren (.one .nil)
    · rename_i pipe
      cases h
      exact place.bar pipe
    · rename_i paren
      cases h
      exact place.close paren
    · rename_i dollar
      cases h
      exact ⟨before, l, place, dollar, rfl⟩
    · cases h

theorem follows_of_atom (place : AtQuantifier atEnd d before)
    (h : next? (.atom d) l = some q') : q'.Follows atEnd (before ++ [l]) := by
  simp only [next?] at h
  split at h
  · rename_i star
    cases h
    exact place.quantified (.star star)
  · rename_i plus
    cases h
    exact place.quantified (.plus plus)
  · rename_i question
    cases h
    exact place.quantified (.question question)
  · rename_i brace
    cases h
    exact .intro place brace
  · exact follows_elementNext? place.atElement h

theorem follows_of_items {mark : List Lexeme} {negated : Bool} {opening : Lexeme}
    (place : AtElement atEnd d before) (opens : opening.token = .openBracket)
    (content : Content mark ts negated) (h : next? (.items d) l = some q') :
    q'.Follows atEnd (before ++ opening :: (mark ++ ts) ++ [l]) := by
  simp only [next?] at h
  split at h
  · rename_i closes
    cases h
    have atom : Atom atEnd (opening :: (mark ++ ts ++ [l])) _ := .set opens content closes
    simpa [Follows] using AtQuantifier.intro place atom
  · rename_i inside
    cases h
    exact ⟨before, opening, mark, ts ++ [l], negated, place, opens, content.concat inside, by simp⟩

theorem follows_of_minimum {ds : List Lexeme} (place : AtMinimum atEnd d before) (digits : Digits ds)
    (h : next? (.minimum d ds) l = some q') : q'.Follows atEnd (before ++ ds ++ [l]) := by
  simp only [next?] at h
  split at h
  · rename_i digit
    cases h
    exact ⟨before, place, digits.concat digit, by simp⟩
  split at h
  · cases h
  rename_i small
  have number := number_of_not_excessive digits.1 digits.2 small
  rw [List.append_assoc]
  split at h
  · rename_i comma
    cases h
    exact .intro place number comma
  split at h
  · rename_i closes
    cases h
    cases place with
    | intro place opens => simpa [Follows] using place.quantified (.exactly opens number closes)
  · cases h

theorem follows_of_comma (place : AtMaximum atEnd d before)
    (h : next? (.comma d) l = some q') : q'.Follows atEnd (before ++ [l]) := by
  simp only [next?] at h
  split at h
  · rename_i digit
    cases h
    exact ⟨before, place, .one digit, rfl⟩
  split at h
  · rename_i closes
    cases h
    cases place with
    | intro place number between =>
        cases place with
        | intro place opens =>
            simpa [Follows] using place.quantified (.atLeast opens number between closes)
  · cases h

theorem follows_of_maximum {ds : List Lexeme} (place : AtMaximum atEnd d before) (digits : Digits ds)
    (h : next? (.maximum d ds) l = some q') : q'.Follows atEnd (before ++ ds ++ [l]) := by
  simp only [next?] at h
  split at h
  · rename_i digit
    cases h
    exact ⟨before, place, digits.concat digit, by simp⟩
  split at h
  · cases h
  rename_i small
  have number' := number_of_not_excessive digits.1 digits.2 small
  split at h
  · rename_i closes
    cases h
    cases place with
    | intro place number between =>
        cases place with
        | intro place opens =>
            simpa [Follows] using place.quantified (.range opens number between number' closes)
  · cases h

/-- `Place.next?` preserves `Follows`, the invariant of `Place.run`. -/
theorem Follows.next? (follows : q.Follows atEnd before) (h : q.next? l = some q') :
    q'.Follows atEnd (before ++ [l]) := by
  cases q with
  | start =>
      subst follows
      have none_yet : AtElement atEnd 0 ([] ++ []) := .top .absent (.one .nil)
      simp only [Place.next?] at h
      split at h
      · rename_i caret
        cases h
        simpa [Follows] using AtElement.top (.present caret) (.one .nil)
      · exact follows_elementNext? none_yet h
  | element d => exact follows_elementNext? follows h
  | atom d => exact follows_of_atom follows h
  | set d =>
      obtain ⟨outer, opening, place, opens, rfl⟩ := follows
      simp only [Place.next?] at h
      split at h
      · rename_i caret
        cases h
        exact ⟨outer, opening, l, place, opens, caret, by simp⟩
      · rename_i not_caret
        split at h
        · cases h
        · rename_i inside
          cases h
          exact ⟨outer, opening, [], [l], false, place, opens,
            .single .absent inside fun _ => not_caret, by simp⟩
  | mark d =>
      obtain ⟨outer, opening, caret, place, opens, marked, rfl⟩ := follows
      simp only [Place.next?] at h
      split at h
      · cases h
      · rename_i inside
        cases h
        exact ⟨outer, opening, [caret], [l], true, place, opens,
          .single (.present marked) inside nofun, by simp⟩
  | items d =>
      obtain ⟨outer, opening, mark, ts, negated, place, opens, content, rfl⟩ := follows
      exact follows_of_items place opens content h
  | bounds d =>
      simp only [Place.next?] at h
      split at h
      · rename_i digit
        cases h
        exact ⟨before, follows, .one digit, rfl⟩
      · cases h
  | minimum d ds =>
      obtain ⟨outer, place, digits, rfl⟩ := follows
      exact follows_of_minimum place digits h
  | comma d => exact follows_of_comma follows h
  | maximum d ds =>
      obtain ⟨outer, place, digits, rfl⟩ := follows
      exact follows_of_maximum place digits h
  | anchored => cases h

theorem Follows.run (follows : q.Follows atEnd before) (h : q.run ts = some q') :
    q'.Follows atEnd (before ++ ts) := by
  induction ts generalizing q before with
  | nil =>
      cases h
      rwa [List.append_nil]
  | cons l ts ih =>
      obtain ⟨next, step, rest⟩ := Option.bind_eq_some_iff.mp h
      rw [List.append_cons]
      exact ih (follows.next? step) rest

end Place

end PatternSampler
