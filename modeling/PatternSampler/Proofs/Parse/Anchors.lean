import Mathlib
import PatternSampler.Proofs.Parse.Composition
import PatternSampler.Proofs.Parse.Spans

/-! # Anchors

A pattern always stands for a whole text, so its anchors say nothing new. One can be put before a pattern
and one behind it, if there is none yet, and its tree stays the same. What stands between the anchors does
not begin with a caret and does not end with a dollar sign, so there is no doubt which of them are anchors.
-/

namespace PatternSampler

open Grammar

namespace Place

variable {q q' : Place} {d : Nat} {l : Lexeme} {ts : List Lexeme}

theorem not_opens_of_dollar (token : l.token = .dollar) (step : q.next? l = some q') : ¬q'.Opens d := by
  have elementNext {depth : Nat} (step : elementNext? depth .dollar = some q') : ¬q'.Opens d := by
    cases depth with
    | zero =>
        cases step
        rintro (anchored | anchored | ⟨anchored, -⟩) <;> cases anchored
    | succ depth => cases step
  have items {depth : Nat} : ¬(Place.items depth).Opens d := by
    rintro (items | items | ⟨items, -⟩) <;> cases items
  have no_digit : Token.dollar.isDigit = false := rfl
  cases q with
  | start | element | atom =>
      simp only [next?, token, reduceCtorEq, if_false] at step
      exact elementNext step
  | set | mark | items =>
      simp only [next?, token, reduceCtorEq, if_false, Option.some.injEq] at step
      cases step
      exact items
  | bounds | minimum | comma | maximum =>
      simp only [next?, token, no_digit, reduceCtorEq, Bool.false_eq_true, if_false, ite_self] at step
  | anchored => cases step

theorem not_dollar_of_run (reached : run q ts = some q') (opens : q'.Opens d) :
    ∀ l ∈ ts.getLast?, l.token ≠ .dollar := by
  induction ts generalizing q with
  | nil => nofun
  | cons l ts ih =>
      obtain ⟨next, step, rest⟩ := Option.bind_eq_some_iff.mp reached
      cases ts with
      | nil =>
          cases rest
          rintro _ ⟨⟩ token
          exact not_opens_of_dollar token step opens
      | cons l' ts => exact ih rest

end Place

/-! ## Tokens between anchors -/

namespace Grammar

variable {atEnd : Span} {ts : List Lexeme} {branches : List Branch}

theorem Alternation.head_ne_caret (body : Alternation atEnd ts branches) :
    ∀ l ∈ ts.head?, l.token ≠ .caret := by
  cases ts with
  | nil => nofun
  | cons l ts =>
      rintro _ ⟨⟩ caret
      obtain ⟨q, -, reached⟩ := Place.run_alternation body (.inl rfl : Place.Opens 0 (.element 0))
      have stuck : Place.next? (.element 0) l = none := by
        rw [Place.next?, caret]
        rfl
      rw [Place.run, stuck] at reached
      cases reached

theorem Alternation.getLast_ne_dollar (body : Alternation atEnd ts branches) :
    ∀ l ∈ ts.getLast?, l.token ≠ .dollar := by
  obtain ⟨q, opens, reached⟩ := Place.run_alternation body (.inl rfl : Place.Opens 0 (.element 0))
  exact Place.not_dollar_of_run reached opens

end Grammar

/-- Tokens that stand between the anchors of a pattern with this tree. -/
inductive Bare (atEnd : Span) : List Lexeme → Tree → Prop
  | intro {ts : List Lexeme} {branches : List Branch} {span : Span} {ss : List Sprout}
      (body : Alternation atEnd ts branches) (sprouted : Expr.sproutAlternation span branches = .ok ss) :
      Bare atEnd ts (.framed ss)

theorem parseLexemes_eq_ok_iff_bare {ts : List Lexeme} {length : Nat} {t : Tree} :
    parseLexemes ts length = .ok t ↔ ∃ before body after start stop, ts = before ++ body ++ after ∧
      Maybe .caret before start ∧ Bare (.emptyAt length) body t ∧ Maybe .dollar after stop := by
  rw [parseLexemes_eq_ok]
  constructor
  · rintro ⟨p, whole, made⟩
    obtain ⟨nonempty, formed⟩ := whole.formed_any
    obtain ⟨ss, sprouted, rfl⟩ := (Pattern.tree_eq_ok nonempty formed).mp made
    cases whole with
    | intro caret body dollar => exact ⟨_, _, _, _, _, rfl, caret, .intro body sprouted, dollar⟩
  · rintro ⟨before, ts, after, start, stop, rfl, caret, ⟨body, sprouted⟩, dollar⟩
    have whole := Whole.intro caret body dollar
    obtain ⟨nonempty, formed⟩ := whole.formed_any
    exact ⟨_, whole, (Pattern.tree_eq_ok nonempty formed).mpr
      ⟨_, Expr.sproutAlternation_of_span _ sprouted, rfl⟩⟩

section

variable {ls : List Lexeme} {l : Lexeme} {t : Tree}

theorem Bare.head_ne_caret {atEnd : Span} {body after : List Lexeme} {stop : Bool}
    (bare : Bare atEnd body t) (dollar : Maybe .dollar after stop) :
    ∀ l ∈ (body ++ after).head?, l.token ≠ .caret := by
  obtain ⟨alternation, -⟩ := bare
  cases body with
  | cons l body => exact alternation.head_ne_caret
  | nil =>
      cases dollar with
      | absent => nofun
      | present token =>
          rintro _ ⟨⟩
          simp [token]

theorem Bare.getLast_ne_dollar {atEnd : Span} {before body : List Lexeme} {start : Bool}
    (bare : Bare atEnd body t) (caret : Maybe .caret before start) :
    ∀ l ∈ (before ++ body).getLast?, l.token ≠ .dollar := by
  obtain ⟨alternation, -⟩ := bare
  rcases body.eq_nil_or_concat with rfl | ⟨body, l, rfl⟩
  · cases caret with
    | absent => nofun
    | present token =>
        rintro _ ⟨⟩
        simp [token]
  · simpa using alternation.getLast_ne_dollar

theorem parseLexemes_caret (caret : l.token = .caret) (n : Nat) :
    parseLexemes (l :: ls) n = .ok t ↔
      (∀ l ∈ ls.head?, l.token ≠ .caret) ∧ parseLexemes ls n = .ok t := by
  simp only [parseLexemes_eq_ok_iff_bare]
  constructor
  · rintro ⟨before, body, after, start, stop, same, mark, bare, dollar⟩
    cases mark with
    | absent =>
        have first : (body ++ after).head? = some l := congrArg List.head? same.symm
        exact absurd caret (bare.head_ne_caret dollar l first)
    | present =>
        obtain ⟨rfl, rfl⟩ := List.cons.inj same
        exact ⟨bare.head_ne_caret dollar, [], body, after, false, stop, rfl, .absent, bare, dollar⟩
  · rintro ⟨no_caret, before, body, after, start, stop, rfl, mark, bare, dollar⟩
    cases mark with
    | present token => exact absurd token (no_caret _ rfl)
    | absent => exact ⟨[l], body, after, true, stop, rfl, .present caret, bare, dollar⟩

theorem parseLexemes_dollar (dollar : l.token = .dollar) (n : Nat) :
    parseLexemes (ls ++ [l]) n = .ok t ↔
      (∀ l ∈ ls.getLast?, l.token ≠ .dollar) ∧ parseLexemes ls n = .ok t := by
  simp only [parseLexemes_eq_ok_iff_bare]
  constructor
  · rintro ⟨before, body, after, start, stop, same, caret, bare, mark⟩
    cases mark with
    | absent =>
        have last : (before ++ body).getLast? = some l := by
          rw [← List.append_nil (before ++ body), ← same, List.getLast?_concat]
        exact absurd dollar (bare.getLast_ne_dollar caret l last)
    | present =>
        obtain ⟨rfl, -⟩ := List.append_inj' same rfl
        exact ⟨bare.getLast_ne_dollar caret, before, body, [], start, false,
          (List.append_nil _).symm, caret, bare, .absent⟩
  · rintro ⟨no_dollar, before, body, after, start, stop, rfl, caret, bare, mark⟩
    cases mark with
    | present token => exact absurd token (no_dollar _ (by simp))
    | absent =>
        rw [List.append_nil]
        exact ⟨before, body, [l], start, true, rfl, caret, bare, .present dollar⟩

end

/-! ## Texts -/

variable {p : String} {ls : List Lexeme} {t : Tree}

theorem parse_caret (tokens : tokenize p = .ok ls) :
    parse ("^" ++ p) = .ok t ↔ (∀ l ∈ ls.head?, l.token ≠ .caret) ∧ parse p = .ok t := by
  let opening : Lexeme := ⟨.caret, 0, 1⟩
  have caret : tokenize "^" = .ok [opening] := rfl
  have same (n : Nat) : ([opening] ++ ls.map (·.mapSpan (.shift n))).map (·.token) =
      ([opening] ++ ls).map (·.token) := by
    rw [List.map_append, tokens_mapSpan, List.map_append]
  rw [parse_of_tokens (tokenize_append caret tokens), parse_of_tokens tokens]
  exact (parseLexemes_eq_ok_congr (same _) _ _).trans (parseLexemes_caret rfl _)

theorem parse_dollar (tokens : tokenize p = .ok ls) :
    parse (p ++ "$") = .ok t ↔ (∀ l ∈ ls.getLast?, l.token ≠ .dollar) ∧ parse p = .ok t := by
  have dollar : tokenize "$" = .ok [⟨.dollar, 0, 1⟩] := rfl
  rw [parse_of_tokens (tokenize_append tokens dollar), parse_of_tokens tokens]
  exact (parseLexemes_dollar rfl _).trans (and_congr_right fun _ => parseLexemes_eq_ok_congr rfl _ _)

/-- An anchor can be added exactly where there is none and the pattern has a tree. Anchored or not, `parse`
    answers the same tree, so `generate` answers the same texts. -/
theorem parse_anchored (tokens : tokenize p = .ok ls) :
    ((∃ t, parse ("^" ++ p) = .ok t) ↔
        (∀ l ∈ ls.head?, l.token ≠ .caret) ∧ ∃ t, parse p = .ok t) ∧
      ((∃ t, parse (p ++ "$") = .ok t) ↔
        (∀ l ∈ ls.getLast?, l.token ≠ .dollar) ∧ ∃ t, parse p = .ok t) ∧
      ∀ q ∈ ["^" ++ p, p ++ "$", "^" ++ p ++ "$"], ∀ t, parse q = .ok t →
        parse p = .ok t ∧ ∃ g g', Generator.ofPattern q = .ok g ∧ Generator.ofPattern p = .ok g' ∧
          ∀ (extra : UInt32) (seed : UInt64),
            (g.withExtra extra).generate seed = (g'.withExtra extra).generate seed := by
  refine ⟨?_, ?_, fun q member t parsed => ?_⟩
  · simp only [parse_caret tokens, exists_and_left]
  · simp only [parse_dollar tokens, exists_and_left]
  · have same : parse p = .ok t := by
      simp only [List.mem_cons, List.not_mem_nil, or_false] at member
      rcases member with rfl | rfl | rfl
      · exact ((parse_caret tokens).mp parsed).2
      · exact ((parse_dollar tokens).mp parsed).2
      · have caret : tokenize "^" = .ok [⟨.caret, 0, 1⟩] := rfl
        exact ((parse_caret tokens).mp ((parse_dollar (tokenize_append caret tokens)).mp parsed).2).2
    refine ⟨same, ⟨t, defaultExtra⟩, ⟨t, defaultExtra⟩, ?_, ?_, fun _ _ => rfl⟩
    · rw [Generator.ofPattern, parsed]
      rfl
    · rw [Generator.ofPattern, same]
      rfl

/-- An escaped dollar sign is not an anchor. -/
theorem parse_anchored_escape : ∃ t, parse ("^" ++ "\\$" ++ "$") = .ok t ∧ parse "\\$" = .ok t := by
  have tokens : tokenize "\\$" = .ok [⟨.escape '$', 0, 2⟩] := rfl
  have parsed : parse ("^" ++ "\\$" ++ "$") = .ok (treeOfToken (.escape '$')) := by decide +kernel
  exact ⟨_, parsed, ((parse_anchored tokens).2.2 _ (by simp) _ parsed).1⟩

end PatternSampler
