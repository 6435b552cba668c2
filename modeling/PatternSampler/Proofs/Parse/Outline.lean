import Mathlib
import PatternSampler.Proofs.Parse.Composition
import PatternSampler.Proofs.Tree.Outline

/-! # The outline of a pattern

The tokens in the tree of a pattern are those of the pattern, so they are such as texts are cut into, and
its outline can be read back. Trees of patterns are the same if their outlines are.
-/

namespace PatternSampler

namespace Expr

variable {allowed : Token → Prop} {span : Span} {s : Sprout} {ss : List Sprout}

theorem allowed_sprout_item {item : SetItem} (each : ∀ t ∈ item.tokens, allowed t)
    (sprouted : item.sprout = .ok s) : ∀ t ∈ s.tokens, allowed t := by
  cases item with
  | single t =>
      cases sprouted
      exact each
  | range first last span =>
      obtain ⟨cls, made, rfl⟩ := sprout_range_eq_ok.mp sprouted
      obtain ⟨rfl, rfl⟩ := CharacterClass.ofTokens_eq_ok.mp made
      exact each

theorem allowed_sproutItems {items : List SetItem} (each : ∀ item ∈ items, ∀ t ∈ item.tokens, allowed t)
    (sprouted : sproutItems items = .ok ss) : ∀ t ∈ Sprout.tokensAll ss, allowed t := by
  induction items generalizing ss with
  | nil =>
      cases sprouted
      nofun
  | cons item items ih =>
      obtain ⟨s, first, ss, others, rfl⟩ := sproutItems_cons_eq_ok.mp sprouted
      obtain ⟨each_first, each_other⟩ := List.forall_mem_cons.mp each
      exact List.forall_mem_append.mpr
        ⟨allowed_sprout_item each_first first, ih each_other others⟩

mutual

theorem allowed_sprout {e : Expr} (formed : e.Everywhere (Formed allowed)) {s : Sprout}
    (sprouted : e.sprout = .ok s) : ∀ t ∈ s.tokens, allowed t := by
  cases e with
  | token t span =>
      cases sprouted
      exact List.forall_mem_singleton.mpr formed
  | group branches span =>
      match branches with
      | [branch] =>
          obtain ⟨ss, below, -, rfl⟩ := sprout_group_one_eq_ok.mp sprouted
          exact allowed_sproutAll formed.2.1 below
      | [] | _ :: _ :: _ =>
          obtain ⟨ss, below, rfl⟩ := (sprout_group_more_eq_ok (by simp)).mp sprouted
          have each := allowed_sproutBranches formed.2 below
          simpa [Sprout.tokens, NodeKind.tokens, Sprout.tokensAll] using each
  | set negated items span =>
      obtain ⟨-, ss, below, rfl⟩ := sprout_set_eq_ok.mp sprouted
      exact allowed_sproutItems formed.2 below
  | quantified atom bounds span =>
      obtain ⟨r, -, s', below, rfl⟩ := sprout_quantified_eq_ok.mp sprouted
      have each := allowed_sprout formed.2 below
      simpa [Sprout.tokens, NodeKind.tokens, Sprout.tokensAll] using each
termination_by sizeOf s

theorem allowed_sproutAll {es : List Expr} (formed : EverywhereIn (Formed allowed) es)
    {ss : List Sprout} (sprouted : sproutAll es = .ok ss) :
    ∀ t ∈ Sprout.tokensAll ss, allowed t := by
  cases es with
  | nil =>
      cases sprouted
      nofun
  | cons e es =>
      obtain ⟨s, first, ss, others, rfl⟩ := sproutAll_cons_eq_ok.mp sprouted
      exact List.forall_mem_append.mpr
        ⟨allowed_sprout formed.1 first, allowed_sproutAll formed.2 others⟩
termination_by sizeOf ss

theorem allowed_sproutBranches {span : Span} {branches : List (List Expr)}
    (formed : EverywhereInAll (Formed allowed) branches) {ss : List Sprout}
    (sprouted : sproutBranches span branches = .ok ss) :
    ∀ t ∈ Sprout.tokensAll ss, allowed t := by
  cases branches with
  | nil =>
      cases sprouted
      nofun
  | cons es branches =>
      obtain ⟨s, first, ss, others, rfl⟩ := sproutBranches_cons_eq_ok.mp sprouted
      refine List.forall_mem_append.mpr ⟨?_, allowed_sproutBranches formed.2 others⟩
      rcases first with ⟨e, rfl, alone⟩ | ⟨-, ss, all, rfl⟩
      · exact allowed_sprout formed.1.1 alone
      · exact allowed_sproutAll formed.1 all
termination_by sizeOf ss

end

theorem allowed_sproutAlternation {branches : List Branch}
    (formed : EverywhereInAll (Formed allowed) branches)
    (sprouted : sproutAlternation span branches = .ok ss) :
    ∀ t ∈ Sprout.tokensAll ss, allowed t := by
  match branches with
  | [branch] => exact allowed_sproutAll formed.1 sprouted
  | [] | _ :: _ :: _ =>
      obtain ⟨below, all, rfl⟩ := (sproutAlternation_more_eq_ok (by simp)).mp sprouted
      have each := allowed_sproutBranches formed all
      simpa [Sprout.tokensAll, Sprout.tokens, NodeKind.tokens] using each

end Expr

/-- A parsed tree is the frame of well-formed pieces with `Written` tokens. -/
theorem exists_framed_of_parse {pattern : String} {t : Tree} (parsed : parse pattern = .ok t) :
    ∃ ss, Sprout.AllWellFormed ss ∧ (∀ t ∈ Sprout.tokensAll ss, t.Written) ∧ Tree.framed ss = t := by
  obtain ⟨ls, p, tokens, whole, made⟩ := parse_eq_ok.mp parsed
  obtain ⟨ts, written, -, rfl⟩ := tokenize_eq_ok.mp tokens
  have each : ∀ l ∈ Token.layout 0 ts, l.token.Written := by
    intro l member
    refine written _ ?_
    rw [← @Token.tokens_layout 0 ts]
    exact List.mem_map_of_mem member
  obtain ⟨nonempty, formed⟩ := whole.formed each
  obtain ⟨ss, sprouted, rfl⟩ := (Pattern.tree_eq_ok nonempty formed).mp made
  exact ⟨ss, Expr.wellFormed_sproutAlternation nonempty formed sprouted,
    Expr.allowed_sproutAlternation formed sprouted, rfl⟩

/-- `Tree.outline` tells parsed trees apart: with the same outline they are the same, in ids, links and
    tokens, and so are their draws. Every parsed tree has an outline. -/
theorem parse_eq_of_outline_eq {p q : String} {t u : Tree} (parsed : parse p = .ok t)
    (parsed' : parse q = .ok u) :
    (∃ text, t.outline = .ok text) ∧
      (t.outline = u.outline → t = u ∧
        ∀ {σ : Type} [DrawSource σ] (extra : UInt32) (s : σ),
          (⟨t, extra⟩ : Generator).drawFrom s = (⟨u, extra⟩ : Generator).drawFrom s ∧
          ∀ count, (⟨t, extra⟩ : Generator).samplesFrom count s =
            (⟨u, extra⟩ : Generator).samplesFrom count s) := by
  obtain ⟨ss, wf, written, rfl⟩ := exists_framed_of_parse parsed
  obtain ⟨ss', wf', written', rfl⟩ := exists_framed_of_parse parsed'
  refine ⟨⟨_, Tree.outline_framed wf⟩, fun same => ?_⟩
  obtain rfl := Tree.eq_of_outline_framed wf wf' written written' same
  exact ⟨rfl, fun extra s => ⟨rfl, fun count => rfl⟩⟩

theorem parse_eq_of_outline_eq_lineFeed : ∃ t u, parse "\n" = .ok t ∧ parse "^\n$" = .ok u ∧
    t.outline = .ok "begin\n  token(\n)\nend\n" ∧ t.outline = u.outline ∧ t = u := by
  have parsed : parse "\n" = .ok (treeOfToken (.char '\n')) := by decide +kernel
  have parsed' : parse "^\n$" = .ok (treeOfToken (.char '\n')) := by decide +kernel
  have outline : (treeOfToken (.char '\n')).outline = .ok "begin\n  token(\n)\nend\n" := by
    decide +kernel
  exact ⟨_, _, parsed, parsed', outline, rfl, ((parse_eq_of_outline_eq parsed parsed').2 rfl).1⟩

end PatternSampler
