import Mathlib
import PatternSampler.Proofs.Expr.Progress
import PatternSampler.Proofs.Parse.Filled

/-! # Reading a pattern comes to an end

What is repeated in a pattern, digits, items and elements, takes a token each time, although branches and
alternations can be empty. The reader of alternations uses itself only behind an opening parenthesis, where
fewer tokens are left. So no reading of a pattern goes on for ever, whatever the tokens.
-/

namespace PatternSampler

/-- `rest` comes directly behind a token `t` of `ts`. -/
def Behind (t : Token) (ts rest : List Lexeme) : Prop := ∃ l, l.token = t ∧ l :: rest <:+ ts

variable {atEnd : Span}

namespace Behind

variable {t : Token} {us ts rest : List Lexeme}

theorem of_suffix (h : Behind t us rest) (h' : us <:+ ts) : Behind t ts rest := by
  obtain ⟨l, token, suffix⟩ := h
  exact ⟨l, token, suffix.trans h'⟩

theorem properSuffix (h : Behind t ts rest) : ProperSuffix rest ts := by
  obtain ⟨l, -, suffix⟩ := h
  exact (ProperSuffix.of_cons List.suffix_rfl).suffix_trans suffix

end Behind

namespace Reader

open Reading (Leaves)

variable {ts us : List Lexeme}

/-! ## Quantifiers and sets -/

theorem digit_advances : Advances (digit atEnd) := one_advances _ _

theorem number_advances : Advances (number atEnd) :=
  fun ts => checked_leaves (digit_advances.manyOne ts) _

theorem braces_advances : Advances (braces atEnd) := by
  intro ts
  apply map_leaves
  apply between_proper
  intro l us _ _
  apply followedBy_suffix (number_advances.ends us)
  apply Ends.optional
  intro vs
  apply map_leaves
  exact followedBy_suffix ((exactly_advances .comma).ends vs) number_advances.ends.optional

theorem quantifier_advances : Advances (quantifier atEnd) := by
  intro ts
  unfold quantifier
  apply orElse_leaves _ (braces_advances ts)
  apply orElse_leaves _ (map_leaves (exactly_advances .question ts) _)
  apply orElse_leaves _ (map_leaves (exactly_advances .plus ts) _)
  exact map_leaves (exactly_advances .star ts) _

theorem setToken_advances : Advances (setToken atEnd) := satisfying_advances _

theorem setRange_advances : Advances (setRange atEnd) := by
  intro ts
  apply spanned_leaves
  apply followedBy_proper _ setToken_advances.ends
  exact followedBy_proper (setToken_advances ts) (exactly_advances .dash).ends

theorem setItem_advances : Advances (setItem atEnd) :=
  fun ts => orElse_leaves (setRange_advances ts) (map_leaves (setToken_advances ts) _)

theorem set_advances : Advances (set atEnd) := by
  intro ts
  apply spanned_leaves
  apply between_proper
  intro l us _ _
  exact followedBy_suffix ((exactly_advances .caret).ends.optional us) setItem_advances.manyOne.ends

/-! ## Branches, whatever alternations in parentheses are read with -/

/-- Branches with bars between them, where `alternation` is used for what is in parentheses. -/
def branchesBy (atEnd : Span) (alternation : Reader (List Branch)) : Reader (List Branch) :=
  separatedBy (exactly atEnd .pipe) (many (element atEnd alternation))

section Ends

variable {alternation : Reader (List Branch)}
  (inside : ∀ rest, Behind .openParen ts rest → (alternation rest).Leaves (· <:+ rest))
include inside

theorem atom_proper : (atom atEnd alternation ts).Leaves (ProperSuffix · ts) := by
  have group : (group atEnd alternation ts).Leaves (ProperSuffix · ts) := by
    apply spanned_leaves
    apply between_proper
    rintro l us rfl opens
    exact inside us ⟨l, opens, List.suffix_rfl⟩
  have single (holds : Token → Bool) : (single atEnd holds ts).Leaves (ProperSuffix · ts) :=
    spanned_leaves (satisfying_advances holds ts) _
  rw [atom_eq]
  apply orElse_leaves _ (single _)
  apply orElse_leaves _ (single _)
  apply orElse_leaves _ (single _)
  exact orElse_leaves group (set_advances ts)

theorem element_proper (within : us <:+ ts) :
    (element atEnd alternation us).Leaves (ProperSuffix · us) := by
  apply spanned_leaves
  apply followedBy_proper _ quantifier_advances.ends.optional
  apply atom_proper
  intro rest behind
  exact inside rest (behind.of_suffix within)

theorem branch_suffix (within : us <:+ ts) :
    (many (element atEnd alternation) us).Leaves (· <:+ us) :=
  many_suffix fun _ within' => element_proper inside (within'.trans within)

theorem branchesBy_suffix : (branchesBy atEnd alternation ts).Leaves (· <:+ ts) :=
  separatedBy_suffix (exactly_advances .pipe) fun _ => branch_suffix inside

/-- `branchesBy` uses the reader that it is given only `Behind` an opening parenthesis. -/
theorem branchesBy_congr {alternation' : Reader (List Branch)}
    (same : ∀ rest, Behind .openParen ts rest → alternation rest = alternation' rest) :
    branchesBy atEnd alternation ts = branchesBy atEnd alternation' ts := by
  apply separatedBy_congr (exactly_advances .pipe) fun _ => branch_suffix inside
  intro us within
  apply many_congr fun vs within' => element_proper inside (within'.trans within)
  intro vs within'
  have group_eq : group atEnd alternation vs = group atEnd alternation' vs := by
    rcases begins_or_not .openParen vs with ⟨l, rest, rfl, opens⟩ | no_paren
    · have behind : Behind .openParen ts rest := ⟨l, opens, within'.trans within⟩
      simp only [group, spanned, between, map, followedBy, exactly_takes opens, same rest behind]
    · rw [group_refuses no_paren, group_refuses no_paren]
  simp only [element, spanned, followedBy, atom_eq, orElse, group_eq]

end Ends

/-! ## Alternations and patterns -/

theorem alternation_ends : Ends (alternation atEnd) := by
  intro ts
  induction ts using ProperSuffix.induction with
  | step ts ih =>
      rw [alternation_eq]
      apply branchesBy_suffix
      intro rest behind
      have proper := behind.properSuffix
      rw [below, if_pos proper.2]
      exact ih rest proper

/-- `branchesBy` is `alternation`, given any reader that is `alternation` `Behind` each opening parenthesis.
    -/
theorem branchesBy_eq_alternation {r : Reader (List Branch)}
    (same : ∀ rest, Behind .openParen ts rest → r rest = alternation atEnd rest) :
    branchesBy atEnd r ts = alternation atEnd ts := by
  rw [alternation_eq]
  apply branchesBy_congr
  · intro rest behind
    rw [same rest behind]
    exact alternation_ends rest
  · intro rest behind
    rw [same rest behind, below, if_pos behind.properSuffix.2]

theorem element_advances : Advances (element atEnd (alternation atEnd)) :=
  fun _ => element_proper (fun rest _ => alternation_ends rest) List.suffix_rfl

theorem pattern_ends : Ends (pattern atEnd) := by
  intro ts
  apply spanned_leaves
  apply followedBy_suffix _ finished_ends
  apply followedBy_suffix _ (exactly_advances .dollar).ends.optional
  exact followedBy_suffix ((exactly_advances .caret).ends.optional ts) alternation_ends

theorem alternation_reads_nothing
    (nothing : ∀ l ∈ ts.head?, l.token.startsAtom = false ∧ l.token ≠ .pipe) :
    (alternation atEnd).Reads ts [[]] ts :=
  alternation_reads (.one .nil) (.inl rfl) rfl Place.settled_element nothing

end Reader

/-! ## From tokens to trees -/

theorem Place.refusal_ne_endless (q : Place) (rest : List Lexeme) :
    (q.refusal atEnd rest).refusal.problem ≠ .endless := by
  have here {problem : Token → GrammarProblem} (other : ∀ t, problem t ≠ .endless) :
      (Setback.here atEnd problem rest).refusal.problem ≠ .endless := by
    cases rest with
    | nil => simp [Setback.here]
    | cons l rest => exact other l.token
  cases q with
  | bounds d => exact here (by simp)
  | minimum d digits | maximum d digits =>
      rw [refusal]
      split
      · simp [Setback.tooLarge]
      · exact here (by simp)
  | start | element | atom | set | mark | items | comma | anchored => exact here (by simp)

/-- `parseLexemes` never reports `endless`, a repetition without progress. -/
theorem parseLexemes_ne_endless (ts : List Lexeme) (length : Nat) (span : Span) :
    parseLexemes ts length ≠ .error (.grammar .endless span) := by
  intro refused
  cases read : Pattern.ofLexemes (.emptyAt length) ts with
  | error r =>
      obtain ⟨s, fault, rfl⟩ := Pattern.ofLexemes_eq_error.mp read
      obtain ⟨before, rest, q, -, -, rfl, -⟩ := Place.exists_of_fault_eq_some fault
      simp only [parseLexemes, read, Except.error.injEq, ParseError.grammar.injEq] at refused
      exact q.refusal_ne_endless rest refused.1
  | ok p =>
      simp only [parseLexemes, read] at refused
      rcases Pattern.written_or_whole_of_tree (Pattern.ofLexemes_eq_ok.mp read) refused with
        ⟨_, _, other, -⟩ | ⟨_, other | other | other⟩
      all_goals cases other

namespace Reader

/-- The readers that are repeated are `Repeatable`, and a reader that is refused takes nothing.
    `alternation`, which can take no token, comes to itself only `Behind` an opening parenthesis. So
    `pattern` is never `endless`. -/
theorem reading_progresses (atEnd : Span) :
    ((element atEnd (alternation atEnd)).Repeatable ∧ (setItem atEnd).Repeatable ∧
      (digit atEnd).Repeatable) ∧
    (∀ {α : Type} (r other : Reader α) (ts : List Lexeme) (s : Setback), r ts = .refused s →
      r.optional ts = .done none ts (some s) ∧
        ∀ a rest alt, r.orElse other ts = .done a rest alt ↔ other ts = .done a rest alt) ∧
    (∀ (ts : List Lexeme) (r : Reader (List Branch)),
      (∀ rest, Behind .openParen ts rest → r rest = alternation atEnd rest) →
        branchesBy atEnd r ts = alternation atEnd ts) ∧
    (∀ ts : List Lexeme, (∀ l ∈ ts.head?, l.token.startsAtom = false ∧ l.token ≠ .pipe) →
      ∃ alt, alternation atEnd ts = .done [[]] ts alt) ∧
    ∀ ts : List Lexeme, pattern atEnd ts ≠ .endless ∧
      ∀ length span, parseLexemes ts length ≠ .error (.grammar .endless span) := by
  refine ⟨⟨element_advances.repeatable, setItem_advances.repeatable, digit_advances.repeatable⟩,
    fun r other ts s => read_of_refused, fun ts r => branchesBy_eq_alternation, fun ts nothing => ?_,
    fun ts => ⟨(pattern_ends ts).ne_endless, parseLexemes_ne_endless ts⟩⟩
  obtain ⟨alt, done, -⟩ := @alternation_reads_nothing atEnd ts nothing
  exact ⟨alt, done⟩

/-- The tokens of `(|)`, with a reader for inner branches that does not read all three of them. -/
theorem reading_progresses_in_parentheses :
    let ts : List Lexeme := [.openParen, .pipe, .closeParen].map (⟨·, .emptyAt 0⟩)
    branchesBy (.emptyAt 0) (fun us => if us.length < 3 then alternation (.emptyAt 0) us else .endless) ts =
        alternation (.emptyAt 0) ts ∧
      (∃ alt, alternation (.emptyAt 0) (ts.drop 2) = .done [[]] (ts.drop 2) alt) ∧
      ∃ s, (digit (.emptyAt 0)).optional ts = .done none ts (some s) := by
  intro ts
  obtain ⟨-, takes_nothing, recursion, empty, -⟩ := reading_progresses (.emptyAt 0)
  refine ⟨recursion ts _ fun rest behind => if_pos behind.properSuffix.2, empty _ (by decide), ?_⟩
  exact ⟨_, (takes_nothing _ (digit (.emptyAt 0)) ts _ rfl).1⟩

end Reader

end PatternSampler
