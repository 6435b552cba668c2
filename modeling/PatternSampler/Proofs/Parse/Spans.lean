import Mathlib
import PatternSampler.Proofs.Expr.Prefixes
import PatternSampler.Proofs.Parse.Problems
import PatternSampler.Proofs.Parse.Transport

/-! # Spans only say where

Spans are handed on, but nothing is ever decided by them. What tokens are read as goes by the tokens
alone, and so does which of them a problem is found at. So a problem moves when its tokens are moved, and
its span always is that of some tokens in a row or the end of the text.
-/

namespace PatternSampler

open Grammar

/-! ## Refusals that are moved -/

def Refusal.mapSpan (f : Span → Span) (r : Refusal) : Refusal := ⟨r.problem, f r.span⟩

def Setback.mapSpan (f : Span → Span) (s : Setback) : Setback := ⟨s.left, s.refusal.mapSpan f⟩

section Moving

variable {f : Span → Span} {atEnd : Span} {ts : List Lexeme}

theorem since_map (joins : Span.Joins f) (ts : List Lexeme) :
    Span.since (f atEnd) (ts.map (·.mapSpan f)) [] = f (Span.since atEnd ts []) := by
  by_cases empty : ts = []
  · rw [empty]
    rfl
  · exact since_mapSpan atEnd (f atEnd) joins empty

theorem Setback.here_mapSpan (problem : Token → GrammarProblem) (ts : List Lexeme) :
    here (f atEnd) problem (ts.map (·.mapSpan f)) = (here atEnd problem ts).mapSpan f := by
  cases ts with
  | nil => rfl
  | cons l ts => simp [here, mapSpan, Refusal.mapSpan, Lexeme.mapSpan]

namespace Place

def mapSpan (f : Span → Span) : Place → Place
  | minimum depth digits => .minimum depth (digits.map (·.mapSpan f))
  | maximum depth digits => .maximum depth (digits.map (·.mapSpan f))
  | q => q

theorem elementNext?_mapSpan (depth : Nat) (t : Token) :
    (elementNext? depth t).map (mapSpan f) = elementNext? depth t := by
  simp only [elementNext?]
  split
  · rfl
  · split <;> rfl

theorem excessive_mapSpan (digits : List Lexeme) :
    Excessive (digits.map (·.mapSpan f)) ↔ Excessive digits := by
  rw [Excessive, tokens_mapSpan, Excessive]

theorem next?_mapSpan (q : Place) (l : Lexeme) :
    (q.mapSpan f).next? (l.mapSpan f) = (q.next? l).map (mapSpan f) := by
  have token : (l.mapSpan f).token = l.token := rfl
  cases q with
  | start =>
      simp only [mapSpan, next?, token]
      split
      · rfl
      · exact (elementNext?_mapSpan 0 l.token).symm
  | element depth => exact (elementNext?_mapSpan depth l.token).symm
  | atom depth =>
      simp only [mapSpan, next?, token]
      split
      · rfl
      · rfl
      · rfl
      · rfl
      · exact (elementNext?_mapSpan depth l.token).symm
  | minimum depth digits | maximum depth digits =>
      simp only [mapSpan, next?, token, excessive_mapSpan, apply_ite (Option.map (Place.mapSpan f)),
        Option.map_some, Option.map_none, List.map_append, List.map_cons, List.map_nil]
  | set | mark | items | bounds | comma =>
      simp only [mapSpan, next?, token, apply_ite (Option.map (Place.mapSpan f)), Option.map_some,
        Option.map_none, List.map_cons, List.map_nil]
  | anchored => rfl

theorem isLast_mapSpan (q : Place) : (q.mapSpan f).isLast = q.isLast := by
  cases q <;> rfl

theorem refusal_mapSpan (joins : Span.Joins f) (q : Place) (rest : List Lexeme) :
    (q.mapSpan f).refusal (f atEnd) (rest.map (·.mapSpan f)) =
      (q.refusal atEnd rest).mapSpan f := by
  cases q with
  | minimum depth digits | maximum depth digits =>
      simp only [mapSpan, refusal, excessive_mapSpan]
      split
      · have spelled : (digits.map (·.mapSpan f)).flatMap (·.token.spelling) =
            digits.flatMap (·.token.spelling) := List.flatMap_map _ _ _
        rw [Setback.tooLarge, Setback.tooLarge, since_map joins, spelled, List.length_map]
        rfl
      · exact Setback.here_mapSpan _ rest
  | _ => exact Setback.here_mapSpan _ rest

/-- `Place.fault` moves with the tokens. -/
theorem fault_mapSpan (joins : Span.Joins f) (q : Place) (ts : List Lexeme) :
    fault (f atEnd) (q.mapSpan f) (ts.map (·.mapSpan f)) =
      (fault atEnd q ts).map (Setback.mapSpan f) := by
  induction ts generalizing q with
  | nil =>
      rw [List.map_nil, fault, fault, isLast_mapSpan]
      split
      · rfl
      · exact congrArg some (refusal_mapSpan joins q [])
  | cons l ts ih =>
      cases step : q.next? l with
      | some q' =>
          have step' : (q.mapSpan f).next? (l.mapSpan f) = some (q'.mapSpan f) := by
            rw [next?_mapSpan, step]
            rfl
          rw [List.map_cons, fault_cons step', fault_cons step, ih]
      | none =>
          have step' : (q.mapSpan f).next? (l.mapSpan f) = none := by
            rw [next?_mapSpan, step]
            rfl
          rw [List.map_cons, fault_refused step', fault_refused step]
          exact congrArg some (refusal_mapSpan joins q (l :: ts))

end Place

/-! ## Patterns that are moved -/

def Pattern.mapSpan (f : Span → Span) (p : Pattern) : Pattern :=
  { p with branches := Expr.mapSpanBranches f p.branches, span := f p.span }

theorem Grammar.Whole.mapSpan (joins : Span.Joins f) {p : Pattern} (whole : Whole atEnd ts p) :
    Whole (f atEnd) (ts.map (·.mapSpan f)) (p.mapSpan f) := by
  cases whole with
  | intro caret body dollar =>
      rw [Pattern.mapSpan, ← since_map joins, List.map_append, List.map_append]
      exact .intro caret.mapSpan (body.mapSpan (f atEnd) joins) dollar.mapSpan

theorem Pattern.ofLexemes_mapSpan (joins : Span.Joins f) (ts : List Lexeme) :
    ofLexemes (f atEnd) (ts.map (·.mapSpan f)) =
      match ofLexemes atEnd ts with
      | .ok p => .ok (p.mapSpan f)
      | .error r => .error (r.mapSpan f) := by
  cases read : ofLexemes atEnd ts with
  | ok p => exact ofLexemes_eq_ok.mpr ((ofLexemes_eq_ok.mp read).mapSpan joins)
  | error r =>
      obtain ⟨s, fault, rfl⟩ := ofLexemes_eq_error.mp read
      refine ofLexemes_eq_error.mpr ⟨s.mapSpan f, ?_, rfl⟩
      exact (Place.fault_mapSpan joins .start ts).trans (by rw [fault]; rfl)

theorem Pattern.tree_mapSpan (joins : Span.Joins f) {p : Pattern} (whole : Whole atEnd ts p) :
    (p.mapSpan f).tree = p.tree.mapError (·.mapSpan f) := by
  obtain ⟨nonempty, formed⟩ := whole.formed_any
  obtain ⟨nonempty', formed'⟩ := (whole.mapSpan joins).formed_any
  rw [tree_eq nonempty formed, tree_eq nonempty' formed']
  refine (congrArg _ (Expr.sproutAlternation_moved p.span p.branches)).trans ?_
  cases Expr.sproutAlternation p.span p.branches <;> rfl

/-- `parseLexemes` answers the same tree wherever the tokens stand, and its errors move with them. -/
theorem parseLexemes_mapSpan (joins : Span.Joins f) {length length' : Nat}
    (ends : f (.emptyAt length) = .emptyAt length') (ts : List Lexeme) :
    parseLexemes (ts.map (·.mapSpan f)) length' = (parseLexemes ts length).mapError (·.mapSpan f) := by
  rw [parseLexemes, ← ends, Pattern.ofLexemes_mapSpan joins, parseLexemes]
  cases read : Pattern.ofLexemes (.emptyAt length) ts with
  | error r => rfl
  | ok p => exact Pattern.tree_mapSpan joins (Pattern.ofLexemes_eq_ok.mp read)

end Moving

/-! ## Tokens that are numbered -/

/-- The tokens with their numbers for spans. -/
def Lexeme.numbered (ts : List Token) : List Lexeme :=
  ts.zipIdx.map fun (t, i) => ⟨t, .emptyAt i⟩

theorem Lexeme.numbered_span {ts : List Token} {i : Nat} {l : Lexeme}
    (found : (numbered ts)[i]? = some l) : i < ts.length ∧ l.span = .emptyAt i := by
  simp only [numbered, List.getElem?_map, List.getElem?_zipIdx, Nat.zero_add, Option.map_map,
    Option.map_eq_some_iff] at found
  obtain ⟨t, found, rfl⟩ := found
  exact ⟨(List.getElem?_eq_some_iff.mp found).1, rfl⟩

/-- Where the tokens with these numbers stand. What is no number of a token is the end of a text of
    `length` bytes. -/
def Span.placed (ts : List Lexeme) (length : Nat) (numbers : Span) : Span :=
  ⟨(ts[numbers.start]?.map (·.span.start)).getD length,
    (ts[numbers.stop]?.map (·.span.stop)).getD length⟩

theorem Span.joins_placed (ts : List Lexeme) (length : Nat) : Joins (placed ts length) := fun _ _ => rfl

theorem Span.placed_ending (ts : List Lexeme) (length : Nat) :
    placed ts length (.emptyAt ts.length) = .emptyAt length := by
  simp [placed, emptyAt]

theorem Lexeme.map_placed_numbered (ts : List Lexeme) (length : Nat) :
    (numbered (ts.map (·.token))).map (·.mapSpan (.placed ts length)) = ts := by
  refine List.ext_getElem? fun i => ?_
  cases found : ts[i]? with
  | none => simp [numbered, found]
  | some l => simp [numbered, found, mapSpan, Span.placed, Span.emptyAt]

/-! ## Where problems stand -/

/-- What is wrong with tokens, apart from where. -/
inductive Mistake where
  | grammar (problem : GrammarProblem)
  | invalid (source : ValidationError)
  | unsupported (construct : Construct)
  deriving DecidableEq

def Mistake.at (span : Span) : Mistake → ParseError
  | grammar problem => .grammar problem span
  | invalid source => .invalid source span
  | unsupported construct => .unsupported construct span

theorem Mistake.mapSpan_at (f : Span → Span) (span : Span) (m : Mistake) :
    (m.at span).mapSpan f = m.at (f span) := by
  cases m <;> rfl

/-- The error is a mistake in tokens, and its span is one of those. -/
def ParseError.Within (P : Span → Prop) (e : ParseError) : Prop :=
  ∃ (m : Mistake) (span : Span), P span ∧ e = m.at span

/-- The span of some tokens in a row. That of no tokens is the end. -/
def Span.Covers (atEnd : Span) (ts : List Lexeme) (span : Span) : Prop :=
  ∃ us, us <:+: ts ∧ span = .since atEnd us []

/-- A problem that reading comes upon, before there is an expression. -/
def GrammarProblem.OfReading : GrammarProblem → Prop
  | emptyBranch | emptyGroup => False
  | _ => True

/-- A problem that a construct has wherever it stands. -/
def ParseError.OfConstruct : ParseError → Prop
  | grammar .emptyGroup _ | grammar .emptyBranch _ | unsupported .negatedSet _
  | invalid (.invertedBounds _ _) _ => True
  | _ => False

/-- Problems stand at the end, at some tokens that cannot be read, at some tokens that are a pattern of
    their own with this problem, or at the three tokens of a range that is no class. -/
inductive ParseError.Stands (atEnd : Span) (ts : List Lexeme) : ParseError → Prop
  | ending : Stands atEnd ts (.grammar .unexpectedEnd atEnd)
  | reading {us : List Lexeme} {problem : GrammarProblem} (nonempty : us ≠ []) (within : us <:+: ts)
      (ofReading : problem.OfReading) : Stands atEnd ts (.grammar problem (.since atEnd us []))
  | construct {us : List Lexeme} {p : Pattern} {problem : ParseError} (nonempty : us ≠ [])
      (within : us <:+: ts) (whole : Whole atEnd us p) (first : p.problems.head? = some problem)
      (ofConstruct : problem.OfConstruct) (there : problem.span = .since atEnd us []) :
      Stands atEnd ts problem
  | range {first dash last : Lexeme} {source : ValidationError} (within : [first, dash, last] <:+: ts)
      (between : dash.token = .dash)
      (refused : CharacterClass.ofTokens first.token last.token = .error source) :
      Stands atEnd ts (.invalid source (.since atEnd [first, dash, last] []))

open ParseError (Stands)

section Standing

variable {atEnd : Span} {ts us : List Lexeme} {problem : ParseError}

theorem ParseError.Stands.within (stands : problem.Stands atEnd ts) :
    problem.Within (Span.Covers atEnd ts) := by
  cases stands with
  | ending => exact ⟨.grammar .unexpectedEnd, atEnd, ⟨[], List.nil_infix, rfl⟩, rfl⟩
  | @reading us problem _ within _ => exact ⟨.grammar problem, _, ⟨us, within, rfl⟩, rfl⟩
  | range within between refused => exact ⟨.invalid _, _, ⟨_, within, rfl⟩, rfl⟩
  | @construct us p problem _ within _ _ ofConstruct there =>
      have mistake : ∃ m : Mistake, problem = m.at problem.span := by
        cases problem with
        | lex e => exact ofConstruct.elim
        | grammar problem span => exact ⟨.grammar problem, rfl⟩
        | invalid source span => exact ⟨.invalid source, rfl⟩
        | unsupported construct span => exact ⟨.unsupported construct, rfl⟩
      obtain ⟨m, eq⟩ := mistake
      exact ⟨m, _, ⟨us, within, there⟩, eq⟩

/-! ### Problems of reading -/

theorem Setback.stands_here (next : Token → GrammarProblem) (ofReading : ∀ t, (next t).OfReading)
    (before rest : List Lexeme) : Stands atEnd (before ++ rest)
      (.grammar (here atEnd next rest).refusal.problem (here atEnd next rest).refusal.span) := by
  cases rest with
  | nil => exact .ending
  | cons l rest =>
      have one : [l] <:+: before ++ l :: rest := ⟨before, rest, by simp⟩
      exact .reading (List.cons_ne_nil l []) one (ofReading l.token)

theorem Place.stands_fault {s : Setback} (fault : Place.fault atEnd .start ts = some s) :
    Stands atEnd ts (.grammar s.refusal.problem s.refusal.span) := by
  obtain ⟨before, rest, q, rfl, reached, rfl, -⟩ := exists_of_fault_eq_some fault
  have follows : q.Follows atEnd ([] ++ before) := Follows.run (q := .start) rfl reached
  cases q with
  | minimum depth digits | maximum depth digits =>
      obtain ⟨outer, -, ⟨nonempty, -⟩, rfl⟩ := follows
      rw [refusal]
      split
      · exact .reading nonempty ⟨outer, rest, rfl⟩ trivial
      · exact Setback.stands_here .unexpected (fun _ => trivial) _ rest
  | bounds => exact Setback.stands_here .notADigit (fun _ => trivial) before rest
  | _ => exact Setback.stands_here .unexpected (fun _ => trivial) before rest

/-! ### Problems of expressions -/

theorem Grammar.Whole.span_eq {p : Pattern} (whole : Whole atEnd ts p) : p.span = .since atEnd ts [] := by
  cases whole
  rfl

theorem SetItem.exists_of_range_mem {first last : Token} {span : Span}
    (member : range first last span ∈ ofLexemes ts) : ∃ l dash l', [l, dash, l'] <:+: ts ∧
      dash.token = .dash ∧ l.token = first ∧ l'.token = last ∧ span = l.span.through l'.span := by
  fun_induction ofLexemes ts with
  | case1 => cases member
  | case2 l dash l' ts between ih =>
      rcases List.mem_cons.mp member with eq | later
      · cases eq
        exact ⟨l, dash, l', (List.prefix_append [l, dash, l'] ts).isInfix, between, rfl, rfl, rfl⟩
      · obtain ⟨k, d, k', within, rest⟩ := ih later
        exact ⟨k, d, k', within.trans (List.suffix_append [l, dash, l'] ts).isInfix, rest⟩
  | case3 l dash l' ts _ ih | case4 l ts _ ih =>
      rcases List.mem_cons.mp member with eq | later
      · cases eq
      · obtain ⟨k, d, k', within, rest⟩ := ih later
        exact ⟨k, d, k', within.trans (List.suffix_cons _ _).isInfix, rest⟩

/-- The first problem of an element `Stands` at its own tokens. -/
theorem Grammar.Element.stands {e : Expr} (element : Element atEnd us e) (within : us <:+: ts)
    (first : e.problems.head? = some problem) (owns : e.Owns problem) : problem.Stands atEnd ts := by
  have alone : (Pattern.mk false false [[e]] (.since atEnd us [])).problems.head? = some problem := by
    rw [Pattern.problems, Expr.problemsAlternation, Expr.problemsAll, Expr.problemsAll, List.append_nil,
      first]
  have construct := Stands.construct element.ne_nil within (Alternation.one (.single element)).whole alone
  cases element with
  | quantified atom quantifier =>
      simp only [Expr.Owns, Bounds.problems] at owns
      split at owns
      · cases owns
      · split at owns
        · cases List.mem_singleton.mp owns
          exact construct trivial rfl
        · cases owns
  | once atom =>
      cases atom with
      | token => exact owns.elim
      | @group opening closing inner branches opens inside closes =>
          rw [Span.since_closed] at construct
          rcases owns with rfl | rfl
          · exact construct trivial rfl
          · exact construct trivial rfl
      | @set opening closing mark inner negated opens content closes =>
          rw [Span.since_closed] at construct
          rcases owns with rfl | ⟨item, member, of_range⟩
          · exact construct trivial rfl
          · cases item with
            | single t => cases of_range
            | range lo hi span =>
                obtain ⟨l, dash, l', inside, between, rfl, rfl, rfl⟩ :=
                  SetItem.exists_of_range_mem member
                obtain ⟨source, refused, rfl⟩ := CharacterClass.exists_refusal of_range
                have joined : Span.since atEnd [l, dash, l'] [] = l.span.through l'.span :=
                  Span.since_closed l l' [dash] []
                have content_within : inner <:+: opening :: (mark ++ inner ++ [closing]) :=
                  ⟨opening :: mark, [closing], by simp⟩
                rw [← joined]
                exact .range (inside.trans (content_within.trans within)) between refused

theorem stands_of_parseLexemes {length : Nat} (refused : parseLexemes ts length = .error problem) :
    problem.Stands (.emptyAt length) ts := by
  rw [parseLexemes] at refused
  cases read : Pattern.ofLexemes (.emptyAt length) ts with
  | error r =>
      obtain ⟨s, fault, rfl⟩ := Pattern.ofLexemes_eq_error.mp read
      rw [read] at refused
      cases refused
      exact Place.stands_fault fault
  | ok p =>
      have whole := Pattern.ofLexemes_eq_ok.mp read
      simp only [read] at refused
      have first := ((Pattern.meets_tree whole).error_iff problem).mp refused
      have derived := whole.everywhere
        (P := fun e => ∃ us, us <:+: ts ∧ Element (.emptyAt length) us e)
        fun us e within element => ⟨us, within, element⟩
      rcases Pattern.exists_owner derived first with rfl | ⟨e, ⟨us, within, element⟩, first, owns⟩
      · have nonempty : ts ≠ [] := by
          rintro rfl
          have nothing : Elements (.emptyAt length) [] [] := .nil
          have none_read := Pattern.ofLexemes_eq_ok.mpr (Alternation.one nothing).whole
          cases read.symm.trans none_read
          cases first
        exact .construct nonempty List.infix_rfl whole first trivial whole.span_eq
      · exact element.stands within first owns

end Standing

theorem within_parseLexemes {ts : List Lexeme} {length : Nat} {err : ParseError}
    (refused : parseLexemes ts length = .error err) :
    err.Within (Span.Covers (.emptyAt length) ts) :=
  (stands_of_parseLexemes refused).within

/-! ## Two places for the same tokens -/

/-- Numbers for a span: those of a first and a last token, or what follows the last of all. -/
def Span.Numbers (count : Nat) (span : Span) : Prop :=
  span = .emptyAt count ∨ span.start ≤ span.stop ∧ span.stop < count

theorem Span.numbers_of_covers {ts : List Token} {span : Span}
    (covers : Covers (.emptyAt ts.length) (Lexeme.numbered ts) span) : span.Numbers ts.length := by
  obtain ⟨us, ⟨before, after, numbered⟩, rfl⟩ := covers
  cases us with
  | nil => exact .inl rfl
  | cons first us =>
      have last_of : (first :: us).getLast? = some (us.getLast?.getD first) := List.getLast?_cons
      have first_is : (Lexeme.numbered ts)[before.length]? = some first := by simp [← numbered]
      have last_is : (Lexeme.numbered ts)[before.length + us.length]? =
          some (us.getLast?.getD first) := by
        rw [← numbered, List.append_assoc, List.getElem?_append_right (Nat.le_add_right _ _),
          Nat.add_sub_cancel_left, List.getElem?_append_left (Nat.lt_succ_self _), ← last_of,
          List.getLast?_eq_getElem?]
        rfl
      obtain ⟨-, starts⟩ := Lexeme.numbered_span first_is
      obtain ⟨short, ends⟩ := Lexeme.numbered_span last_is
      have joined : since (.emptyAt ts.length) (first :: us) [] =
          ⟨before.length, before.length + us.length⟩ := by
        simp [since, last_of, starts, ends, through, emptyAt]
      rw [joined]
      exact .inr ⟨Nat.le_add_right _ _, short⟩

/-- `parseLexemes` of `Lexeme.numbered` tokens decides it for all spans. -/
theorem parseLexemes_eq_numbered (ts : List Lexeme) (length : Nat) : parseLexemes ts length =
    (parseLexemes (Lexeme.numbered (ts.map (·.token))) (ts.map (·.token)).length).mapError
      (·.mapSpan (.placed ts length)) := by
  have ends := Span.placed_ending ts length
  rw [← List.length_map (·.token)] at ends
  rw [← parseLexemes_mapSpan (Span.joins_placed ts length) ends, Lexeme.map_placed_numbered]

theorem parseLexemes_eq_ok_congr {ts us : List Lexeme} (same : ts.map (·.token) = us.map (·.token))
    (n m : Nat) {t : Tree} : parseLexemes ts n = .ok t ↔ parseLexemes us m = .ok t := by
  rw [parseLexemes_eq_numbered ts, parseLexemes_eq_numbered us, ← same, mapError_eq_ok, mapError_eq_ok]

/-- `parseLexemes` of the same tokens with other spans is the same tree, or the same `Mistake` at the spans
    of the same tokens. -/
theorem parseLexemes_congr {ts us : List Lexeme} (same : ts.map (·.token) = us.map (·.token))
    (n m : Nat) :
    (∃ t, parseLexemes ts n = .ok t ∧ parseLexemes us m = .ok t) ∨
      ∃ (mistake : Mistake) (numbers : Span), numbers.Numbers ts.length ∧
        parseLexemes ts n = .error (mistake.at (.placed ts n numbers)) ∧
        parseLexemes us m = .error (mistake.at (.placed us m numbers)) := by
  rw [parseLexemes_eq_numbered ts, parseLexemes_eq_numbered us, ← same]
  cases run : parseLexemes (Lexeme.numbered (ts.map (·.token))) (ts.map (·.token)).length with
  | ok t => exact .inl ⟨t, rfl, rfl⟩
  | error e =>
      obtain ⟨mistake, numbers, covers, rfl⟩ := within_parseLexemes run
      have tokens := Span.numbers_of_covers covers
      rw [List.length_map] at tokens
      refine .inr ⟨mistake, numbers, tokens, ?_, ?_⟩
      · exact congrArg _ (Mistake.mapSpan_at (.placed ts n) numbers mistake)
      · exact congrArg _ (Mistake.mapSpan_at (.placed us m) numbers mistake)

/-- The tokens of `[z-a]` as they stand in a text, and with spans that overlap and go backwards. -/
theorem parseLexemes_congr_scattered :
    let ts : List Lexeme := [⟨.openBracket, 0, 1⟩, ⟨.char 'z', 1, 2⟩, ⟨.dash, 2, 3⟩, ⟨.char 'a', 3, 4⟩,
      ⟨.closeBracket, 4, 5⟩]
    let us : List Lexeme := [⟨.openBracket, 7, 3⟩, ⟨.char 'z', 8, 9⟩, ⟨.dash, 0, 9⟩, ⟨.char 'a', 4, 2⟩,
      ⟨.closeBracket, 4, 4⟩]
    ts.map (·.token) = us.map (·.token) ∧
      ((∃ t, parseLexemes ts 5 = .ok t ∧ parseLexemes us 0 = .ok t) ∨
        ∃ (mistake : Mistake) (numbers : Span), numbers.Numbers ts.length ∧
          parseLexemes ts 5 = .error (mistake.at (.placed ts 5 numbers)) ∧
          parseLexemes us 0 = .error (mistake.at (.placed us 0 numbers))) := by
  intro ts us
  have same : ts.map (·.token) = us.map (·.token) := by decide
  exact ⟨same, parseLexemes_congr same 5 0⟩

end PatternSampler
