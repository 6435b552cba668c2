import Mathlib
import PatternSampler.Proofs.Generator.Drawing
import PatternSampler.Proofs.Parse.Transport
import PatternSampler.Proofs.Token.Layout

/-! # Patterns made of patterns

Where the anchors and the bars of patterns do not get in the way, patterns can be written one after the
other, and a pattern can be put into parentheses. The tokens are those of the parts, and so are the
elements, for no token of a part can be taken together with a token of its neighbour.
-/

namespace PatternSampler

open Grammar

/-- There is no anchor to be left behind: the first token is no caret and the last one no dollar sign. -/
structure Unanchored (ls : List Lexeme) : Prop where
  start : ∀ l ∈ ls.head?, l.token ≠ .caret
  stop : ∀ l ∈ ls.getLast?, l.token ≠ .dollar

/-- No alternative is a child of an opening node. -/
def Tree.SingleBranch (t : Tree) : Prop :=
  ∀ n ∈ t.nodes, n.kind = .opening → ∀ id ∈ n.children, ∀ child ∈ t.get? id, child.kind ≠ .alternative

instance (ls : List Lexeme) : Decidable (Unanchored ls) :=
  decidable_of_iff ((∀ l ∈ ls.head?, l.token ≠ .caret) ∧ ∀ l ∈ ls.getLast?, l.token ≠ .dollar)
    ⟨fun ⟨start, stop⟩ => ⟨start, stop⟩, fun ⟨start, stop⟩ => ⟨start, stop⟩⟩

instance (t : Tree) : Decidable t.SingleBranch :=
  inferInstanceAs (Decidable (∀ n ∈ t.nodes, n.kind = .opening → ∀ id ∈ n.children,
    ∀ child ∈ t.get? id, child.kind ≠ .alternative))

/-! ## Tokens -/

namespace Token

variable {offset : Nat} {ts : List Token}

theorem layout_shift (n : Nat) :
    layout (n + offset) ts = (layout offset ts).map (·.mapSpan (.shift n)) := by
  induction ts generalizing offset with
  | nil => rfl
  | cons t ts ih =>
      rw [layout, layout, List.map_cons, ← ih, Nat.add_assoc]
      rfl

end Token

/-- `tokenize` of two texts in a row, the tokens of the second shifted by the bytes of the first. -/
theorem tokenize_append {p q : String} {ls ls' : List Lexeme} (tokens : tokenize p = .ok ls)
    (tokens' : tokenize q = .ok ls') :
    tokenize (p ++ q) = .ok (ls ++ ls'.map (·.mapSpan (.shift p.utf8ByteSize))) := by
  obtain ⟨ts, written, rfl, rfl⟩ := tokenize_eq_ok.mp tokens
  obtain ⟨us, written', rfl, rfl⟩ := tokenize_eq_ok.mp tokens'
  refine tokenize_eq_ok.mpr ⟨ts ++ us, List.forall_mem_append.mpr ⟨written, written'⟩, ?_, ?_⟩
  · rw [List.map_append, String.join_append]
  · rw [Token.layout_append, ← Token.layout_shift, ← Token.toList_join_text, String.utf8Len_toList,
      Nat.zero_add]
    rfl

namespace Grammar

variable {atEnd : Span} {ls : List Lexeme}

theorem Elements.grouped {opening closing : Lexeme} {branches : List Branch}
    (opens : opening.token = .openParen) (inside : Alternation atEnd ls branches)
    (closes : closing.token = .closeParen) : Elements atEnd ([opening] ++ ls ++ [closing])
      [.group branches (opening.span.through closing.span)] :=
  .single (.once (.group opens inside closes))

theorem Whole.alternation {p : Pattern} (whole : Whole atEnd ls p) (unanchored : Unanchored ls) :
    Alternation atEnd ls p.branches := by
  obtain ⟨start, stop⟩ := unanchored
  cases whole with
  | intro caret body dollar =>
      cases caret with
      | present token => exact absurd token (start _ rfl)
      | absent =>
          cases dollar with
          | present token => exact absurd token (stop _ (by simp))
          | absent => simpa using body

end Grammar

namespace Expr

variable {span : Span} {ss ss' : List Sprout} {es es' : Branch}

theorem sproutAll_append (sprouted : sproutAll es = .ok ss) (sprouted' : sproutAll es' = .ok ss') :
    sproutAll (es ++ es') = .ok (ss ++ ss') := by
  induction es generalizing ss with
  | nil =>
      cases sprouted
      exact sprouted'
  | cons e es ih =>
      obtain ⟨s, first, ss, others, rfl⟩ := sproutAll_cons_eq_ok.mp sprouted
      exact sproutAll_cons_eq_ok.mpr ⟨s, first, _, ih others, rfl⟩

theorem sproutAlternation_ne_nil {atEnd : Span} {ls : List Lexeme} {branches : List Branch}
    (body : Alternation atEnd ls branches) (nonempty : ls ≠ [])
    (sprouted : sproutAlternation span branches = .ok ss) : ss ≠ [] := by
  cases body with
  | one branch =>
      cases branch with
      | nil => exact absurd rfl nonempty
      | cons first others =>
          obtain ⟨s, -, ss, -, rfl⟩ := sproutAll_cons_eq_ok.mp sprouted
          exact List.cons_ne_nil s ss
  | more branch between others =>
      obtain ⟨es, branches, rfl⟩ := others.exists_cons
      obtain ⟨below, -, rfl⟩ := (sproutAlternation_more_eq_ok (by simp)).mp sprouted
      exact List.cons_ne_nil _ _

/-- A group sprouts what its branches do, below one node. -/
theorem sproutAll_group {branches : List Branch} (sprouted : sproutAlternation span branches = .ok ss)
    (filled : ss ≠ []) : sproutAll [.group branches span] = .ok [.node .group ss] := by
  refine sproutAll_cons_eq_ok.mpr ⟨_, ?_, [], rfl, rfl⟩
  match branches with
  | [branch] => exact sprout_group_one_eq_ok.mpr ⟨ss, sprouted, filled, rfl⟩
  | [] | _ :: _ :: _ =>
      obtain ⟨below, all, rfl⟩ := (sproutAlternation_more_eq_ok (by simp)).mp sprouted
      exact (sprout_group_more_eq_ok (by simp)).mpr ⟨below, all, rfl⟩

end Expr

/-! ## Trees -/

variable {pattern : String} {ls : List Lexeme} {t : Tree}

theorem exists_alternation_of_parse (tokens : tokenize pattern = .ok ls) (parsed : parse pattern = .ok t)
    (unanchored : Unanchored ls) : ∃ branches span ss,
      Alternation (.emptyAt pattern.utf8ByteSize) ls branches ∧
        Expr.sproutAlternation span branches = .ok ss ∧ Sprout.AllWellFormed ss ∧ Tree.framed ss = t := by
  obtain ⟨ls', p, tokens', whole, made⟩ := parse_eq_ok.mp parsed
  cases tokens.symm.trans tokens'
  obtain ⟨nonempty, formed⟩ := whole.formed_any
  obtain ⟨ss, sprouted, framed⟩ := (Pattern.tree_eq_ok nonempty formed).mp made
  exact ⟨_, _, ss, whole.alternation unanchored, sprouted,
    Expr.wellFormed_sproutAlternation nonempty formed sprouted, framed⟩

theorem Tree.not_singleBranch_alternative {below : List Sprout} :
    ¬(framed [.node .alternative below]).SingleBranch := by
  intro single
  obtain ⟨⟨found, -⟩, -⟩ := @allSitIn_framed [.node .alternative below]
  have child : 1 ∈ (Sprout.ids 1 [.node .alternative below]).toArray :=
    List.mem_toArray.mpr List.mem_cons_self
  exact single _ (Array.mem_of_getElem? get?_framed_opening) rfl 1 child _ found rfl

theorem exists_elements_of_parse (tokens : tokenize pattern = .ok ls) (parsed : parse pattern = .ok t)
    (unanchored : Unanchored ls) (single : t.SingleBranch) : ∃ es ss,
      Elements (.emptyAt pattern.utf8ByteSize) ls es ∧ Expr.sproutAll es = .ok ss ∧
        Sprout.AllWellFormed ss ∧ Tree.framed ss = t := by
  obtain ⟨branches, span, ss, body, sprouted, wf, rfl⟩ :=
    exists_alternation_of_parse tokens parsed unanchored
  cases body with
  | one branch => exact ⟨_, ss, branch, sprouted, wf, rfl⟩
  | more branch between others =>
      obtain ⟨es, more, rfl⟩ := others.exists_cons
      obtain ⟨below, -, rfl⟩ := (Expr.sproutAlternation_more_eq_ok (by simp)).mp sprouted
      exact absurd single Tree.not_singleBranch_alternative

/-- The tree of a pattern that is one row of `Grammar.Elements` is the frame of what they sprout. -/
theorem parse_of_elements {es : Branch} {ss : List Sprout} (tokens : tokenize pattern = .ok ls)
    (elements : Elements (.emptyAt pattern.utf8ByteSize) ls es) (sprouted : Expr.sproutAll es = .ok ss) :
    parse pattern = .ok (Tree.framed ss) ∧ Sprout.AllWellFormed ss := by
  have whole := (Alternation.one elements).whole
  obtain ⟨nonempty, formed⟩ := whole.formed_any
  have made := (Pattern.tree_eq_ok nonempty formed).mpr ⟨ss, sprouted, rfl⟩
  exact ⟨parse_eq_ok.mpr ⟨ls, _, tokens, whole, made⟩,
    (Expr.filled_sproutAll formed.1 sprouted).1.wellFormed⟩

/-- Two `Unanchored` patterns of a `SingleBranch` make one pattern in a row. Its `body` is one after the
    other, and `drawFrom` draws from the one and then, from the source that is left, from the other. -/
theorem parse_append {p q : String} {ls ls' : List Lexeme} {t u : Tree} (tokens : tokenize p = .ok ls)
    (tokens' : tokenize q = .ok ls') (parsed : parse p = .ok t) (parsed' : parse q = .ok u)
    (unanchored : Unanchored ls) (unanchored' : Unanchored ls') (single : t.SingleBranch)
    (single' : u.SingleBranch) :
    ∃ v, parse (p ++ q) = .ok v ∧
      (∃ ss ss', t.body = .ok ss ∧ u.body = .ok ss' ∧ v.body = .ok (ss ++ ss')) ∧
      ∀ {σ : Type} [DrawSource σ] (extra : UInt32) (s : σ),
        (⟨v, extra⟩ : Generator).drawFrom s = do
          let (text, s) ← (⟨t, extra⟩ : Generator).drawFrom s
          let (text', s) ← (⟨u, extra⟩ : Generator).drawFrom s
          return (text ++ text', s) := by
  obtain ⟨es, ss, elements, sprouted, wf, rfl⟩ :=
    exists_elements_of_parse tokens parsed unanchored single
  obtain ⟨es', ss', elements', sprouted', wf', rfl⟩ :=
    exists_elements_of_parse tokens' parsed' unanchored' single'
  -- The tokens of the first pattern stay where they are, but the text now ends somewhere else.
  have first : Elements (.emptyAt (p ++ q).utf8ByteSize) ls (Expr.mapSpanAll (fun span => span) es) := by
    have moved := elements.mapSpan (.emptyAt (p ++ q).utf8ByteSize) Span.joins_same
    rwa [Lexeme.map_mapSpan_same] at moved
  have all := first.append (elements'.mapSpan _ (Span.joins_shift p.utf8ByteSize))
  obtain ⟨parsed, both⟩ := parse_of_elements (tokenize_append tokens tokens') all
    (Expr.sproutAll_append ((Expr.sproutAll_mapSpanAll es).mpr sprouted)
      ((Expr.sproutAll_mapSpanAll es').mpr sprouted'))
  refine ⟨_, parsed, ⟨ss, ss', Tree.body_framed wf, Tree.body_framed wf', Tree.body_framed both⟩, ?_⟩
  intro σ _ extra s
  simp only [Generator.drawFrom_framed wf, Generator.drawFrom_framed wf', Generator.drawFrom_framed both]
  exact Sprout.draw_append

theorem parse_append_wildcard : ∃ v, parse ("a" ++ ".") = .ok v ∧
    v.body = .ok [.node (.token (.char 'a')) [], .node (.token .period) []] := by
  have letter : parse "a" = .ok (treeOfToken (.char 'a')) := by decide +kernel
  have wildcard : parse "." = .ok (treeOfToken .period) := by decide +kernel
  have tokens : tokenize "a" = .ok [⟨.char 'a', 0, 1⟩] := by decide +kernel
  have tokens' : tokenize "." = .ok [⟨.period, 0, 1⟩] := by decide +kernel
  obtain ⟨v, parsed, ⟨ss, ss', body, body', all⟩, -⟩ := parse_append tokens tokens' letter wildcard
    (by decide) (by decide) (by decide) (by decide)
  cases body
  cases body'
  exact ⟨v, parsed, all⟩

/-- An `Unanchored` pattern parses in parentheses, and `drawFrom` over it stays the same. -/
theorem parse_grouped {p : String} {ls : List Lexeme} {t : Tree} (tokens : tokenize p = .ok ls)
    (parsed : parse p = .ok t) (nonempty : ls ≠ []) (unanchored : Unanchored ls) :
    ∃ u, parse ("(" ++ p ++ ")") = .ok u ∧
      ∀ {σ : Type} [DrawSource σ] (extra : UInt32) (s : σ),
        (⟨u, extra⟩ : Generator).drawFrom s = (⟨t, extra⟩ : Generator).drawFrom s := by
  obtain ⟨branches, span, ss, body, sprouted, wf, rfl⟩ :=
    exists_alternation_of_parse tokens parsed unanchored
  have opening : tokenize "(" = .ok [⟨.openParen, 0, 1⟩] := rfl
  have closing : tokenize ")" = .ok [⟨.closeParen, 0, 1⟩] := rfl
  have tokens' := tokenize_append (tokenize_append opening tokens) closing
  have inside := body.mapSpan (.emptyAt ("(" ++ p ++ ")").utf8ByteSize)
    (Span.joins_shift "(".utf8ByteSize)
  have filled := Expr.sproutAlternation_ne_nil body nonempty sprouted
  obtain ⟨parsed', wf'⟩ := parse_of_elements tokens' (.grouped rfl inside rfl)
    (Expr.sproutAll_group ((Expr.sproutAlternation_mapSpanBranches _ span branches).mpr sprouted) filled)
  refine ⟨_, parsed', fun extra s => ?_⟩
  rw [Generator.drawFrom_framed wf', Generator.drawFrom_framed wf]
  exact Sprout.draw_sequence (.inr (.inr rfl))

/-- The tree of `c|d`. -/
def treeOfAlternatives (c d : Char) : Tree :=
  ⟨#[⟨.opening, none, #[1]⟩, ⟨.alternative, some 0, #[2, 3]⟩, ⟨.token (.char c), some 1, #[]⟩,
    ⟨.token (.char d), some 1, #[]⟩, ⟨.closing, none, #[]⟩], #[0, 4]⟩

theorem parse_grouped_letters : ∃ u, parse ("(" ++ "a|b" ++ ")") = .ok u ∧ ∀ s : Seeded,
    (⟨u, 0⟩ : Generator).drawFrom s = (⟨treeOfAlternatives 'a' 'b', 0⟩ : Generator).drawFrom s := by
  have letters : parse "a|b" = .ok (treeOfAlternatives 'a' 'b') := by decide +kernel
  have tokens : tokenize "a|b" = .ok [⟨.char 'a', 0, 1⟩, ⟨.pipe, 1, 2⟩, ⟨.char 'b', 2, 3⟩] := by
    decide +kernel
  obtain ⟨u, parsed, same⟩ := parse_grouped tokens letters (by decide) (by decide)
  exact ⟨u, parsed, fun s => same 0 s⟩

end PatternSampler
