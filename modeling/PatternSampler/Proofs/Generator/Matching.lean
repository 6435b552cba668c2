import Mathlib
import PatternSampler.Proofs.Expr.Meaning
import PatternSampler.Proofs.Generator.Language
import PatternSampler.Proofs.Parse.Lowering

/-! # Drawn texts match their pattern

What a piece of a tree yields is what the expression that it was added for matches, if escapes are read
as nothing. Of all texts that match, those that can be drawn are only some: a wildcard becomes one of a
few characters, and without an upper limit there is one for the count of a repetition.
-/

namespace PatternSampler

variable {t : Tree} {extra : UInt32}

namespace Sprout

@[simp] theorem id_subtree (s : Sprout) (id : NodeId) : (s.subtree id).id = id := by
  cases s
  rfl

theorem ids_cons (s : Sprout) (ss : List Sprout) (id : NodeId) :
    ids id (s :: ss) = id :: ids (id + s.size) ss := by
  rw [ids, subtreeAll, List.map_cons, id_subtree]
  rfl

theorem isChoice_iff {kind : NodeKind} {children : List Sprout} {id : NodeId} {parent : Option NodeId}
    (sits : ((node kind children).subtree id).SitsIn t parent) :
    t.IsChoice (some id) ↔ kind = .choice := by
  simp [Tree.IsChoice, sits.1]

end Sprout

/-- Escapes are read as nothing. -/
def silentEscapes : Char → Language Char := fun _ => 1

theorem Token.mem_meaning {token : Token} {parent : Option NodeId} (free : ¬t.IsChoice parent)
    {w : List Char} (y : t.TokenYields parent token w) : w ∈ token.meaning silentEscapes := by
  rcases y with ⟨escape, rfl⟩ | ⟨rfl, -, c, ge, le, rfl⟩ | ⟨plain, fixed, rfl⟩
  · cases token with
    | escape c => exact Language.nil_mem_one
    | _ => cases escape
  · refine ⟨c, ?_, rfl⟩
    rintro rfl
    exact absurd ge (by decide)
  · cases token with
    | escape c => cases plain
    | period => exact absurd (fixed rfl) free
    | _ => exact rfl

namespace SetItem

theorem mem_meaning {item : SetItem} {s : Sprout} (sprouted : item.sprout = .ok s) {id : NodeId}
    {parent : Option NodeId} (sits : (s.subtree id).SitsIn t parent) (within : t.IsChoice parent)
    {w : List Char} (y : t.Yields extra id w) : w ∈ item.meaning silentEscapes := by
  cases item with
  | single token =>
      cases sprouted
      rcases (Tree.yields_iff sits.1).mp y with ⟨escape, rfl⟩ | ⟨rfl, free, -⟩ | ⟨plain, -, rfl⟩
      · cases token with
        | escape c => exact Language.nil_mem_one
        | _ => cases escape
      · exact absurd within free
      · cases token with
        | escape c => cases plain
        | _ => exact rfl
  | range first last span =>
      obtain ⟨cls, made, rfl⟩ := Expr.sprout_range_eq_ok.mp sprouted
      obtain ⟨rfl, rfl⟩ := CharacterClass.ofTokens_eq_ok.mp made
      obtain ⟨c, inside, rfl⟩ := (Tree.yields_iff sits.1).mp y
      have bounds : cls.lo ≤ c ∧ c ≤ cls.hi := by simpa [CharacterClass.contains] using inside
      exact ⟨cls.lo, Option.get_mem _, cls.hi, Option.get_mem _, c, bounds.1, bounds.2, rfl⟩

theorem exists_mem_meaning {items : List SetItem} {ss : List Sprout}
    (sprouted : Expr.sproutItems items = .ok ss) {id : NodeId} {parent : Option NodeId}
    (sit : Subtree.AllSitIn t parent (Sprout.subtreeAll id ss)) (within : t.IsChoice parent)
    {child : NodeId} (member : child ∈ Sprout.ids id ss) {w : List Char}
    (y : t.Yields extra child w) : ∃ item ∈ items, w ∈ item.meaning silentEscapes := by
  induction items generalizing ss id with
  | nil =>
      cases sprouted
      cases member
  | cons item items ih =>
      obtain ⟨s, one, ss, others, rfl⟩ := Expr.sproutItems_cons_eq_ok.mp sprouted
      rw [Sprout.ids_cons] at member
      cases member with
      | head => exact ⟨item, List.mem_cons_self, mem_meaning one sit.1 within y⟩
      | tail _ member =>
          obtain ⟨item, here, matched⟩ := ih others sit.2 member
          exact ⟨item, List.mem_cons_of_mem _ here, matched⟩

end SetItem

theorem Bounds.mem_meaning {bounds : Bounds}
    (limited : bounds.min ≤ limit ∧ ∀ m ∈ bounds.max, m ≤ limit) {r : Repetition}
    (made : bounds.repetition = .ok r) {texts : Language Char} {copies : List (List Char)}
    (least : r.min.toNat ≤ copies.length) (most : copies.length ≤ r.largest extra)
    (each : ∀ copy ∈ copies, copy ∈ texts) : copies.flatten ∈ bounds.meaning texts := by
  obtain ⟨min, max⟩ := bounds
  obtain ⟨min_eq, max_eq⟩ := Repetition.ofBounds_eq_ok.mp made
  refine ⟨copies.length, ?_, ?_, Language.mem_pow.mpr ⟨copies, rfl, rfl, each⟩⟩
  · rwa [min_eq, toNat_ofNat limited.1] at least
  · rintro m ⟨⟩
    rw [Repetition.largest, max_eq] at most
    exact most.trans_eq (toNat_ofNat (limited.2 m rfl))

namespace Expr

mutual

/-- The texts that the node of an expression `Yields` are in `Expr.meaning`. -/
theorem mem_meaning {e : Expr} {allowed : Token → Prop} (formed : e.Everywhere (Formed allowed))
    {s : Sprout} (sprouted : e.sprout = .ok s) {id : NodeId} {parent : Option NodeId}
    (sits : (s.subtree id).SitsIn t parent) (free : ¬t.IsChoice parent) {w : List Char}
    (y : t.Yields extra id w) : w ∈ e.meaning silentEscapes := by
  cases e with
  | token token span =>
      cases sprouted
      exact Token.mem_meaning free ((Tree.yields_iff sits.1).mp y)
  | group branches span =>
      match branches with
      | [] => exact absurd rfl formed.1
      | [branch] =>
          obtain ⟨ss, all, -, rfl⟩ := sprout_group_one_eq_ok.mp sprouted
          have below : ¬t.IsChoice (some id) := by simp [Sprout.isChoice_iff sits]
          exact .inl (mem_meaningAll formed.2.1 all sits.2 below ((Tree.yields_iff sits.1).mp y))
      | es :: es' :: branches =>
          obtain ⟨ss, all, rfl⟩ := (sprout_group_more_eq_ok (by simp)).mp sprouted
          cases (Tree.yields_iff sits.1).mp y with
          | cons one none =>
              cases none
              have sits := sits.2.1
              have below : ¬t.IsChoice (some (id + 1)) := by simp [Sprout.isChoice_iff sits]
              obtain ⟨child, member, chosen⟩ := (Tree.yields_iff sits.1).mp one
              rw [List.append_nil]
              exact mem_meaningAny formed.2 all sits.2 below (List.mem_toArray.mp member) chosen
  | set negated items span =>
      obtain ⟨rfl, ss, all, rfl⟩ := sprout_set_eq_ok.mp sprouted
      have within : t.IsChoice (some id) := ⟨id, _, rfl, sits.1, rfl⟩
      obtain ⟨child, member, chosen⟩ := (Tree.yields_iff sits.1).mp y
      exact SetItem.exists_mem_meaning all sits.2 within (List.mem_toArray.mp member) chosen
  | quantified atom bounds span =>
      obtain ⟨r, made, s, one, rfl⟩ := sprout_quantified_eq_ok.mp sprouted
      obtain ⟨copies, least, most, each, rfl⟩ := (Tree.yields_iff sits.1).mp y
      have below : ¬t.IsChoice (some id) := by simp [Sprout.isChoice_iff sits]
      refine Bounds.mem_meaning formed.1 made least most fun copy member => ?_
      cases each copy member with
      | cons yielded none =>
          cases none
          rw [List.append_nil]
          rw [Sprout.id_subtree] at yielded
          exact mem_meaning formed.2 one sits.2.1 below yielded

theorem mem_meaningAll {es : List Expr} {allowed : Token → Prop}
    (formed : EverywhereIn (Formed allowed) es) {ss : List Sprout} (sprouted : sproutAll es = .ok ss)
    {id : NodeId} {parent : Option NodeId}
    (sit : Subtree.AllSitIn t parent (Sprout.subtreeAll id ss)) (free : ¬t.IsChoice parent)
    {w : List Char} (y : t.YieldsAll extra (Sprout.ids id ss) w) :
    w ∈ meaningAll silentEscapes es := by
  cases es with
  | nil =>
      cases sprouted
      cases y
      exact Language.nil_mem_one
  | cons e es =>
      obtain ⟨s, first, ss, others, rfl⟩ := sproutAll_cons_eq_ok.mp sprouted
      rw [Sprout.ids_cons] at y
      cases y with
      | cons one all =>
          exact Language.append_mem_mul (mem_meaning formed.1 first sit.1 free one)
            (mem_meaningAll formed.2 others sit.2 free all)

theorem mem_meaningAny {branches : List (List Expr)} {allowed : Token → Prop}
    (formed : EverywhereInAll (Formed allowed) branches) {span : Span} {ss : List Sprout}
    (sprouted : sproutBranches span branches = .ok ss) {id : NodeId} {parent : Option NodeId}
    (sit : Subtree.AllSitIn t parent (Sprout.subtreeAll id ss)) (free : ¬t.IsChoice parent)
    {child : NodeId} (member : child ∈ Sprout.ids id ss) {w : List Char}
    (y : t.Yields extra child w) : w ∈ meaningAny silentEscapes branches := by
  cases branches with
  | nil =>
      cases sprouted
      cases member
  | cons es branches =>
      obtain ⟨s, first, ss, others, rfl⟩ := sproutBranches_cons_eq_ok.mp sprouted
      rw [Sprout.ids_cons] at member
      cases member with
      | tail _ member => exact .inr (mem_meaningAny formed.2 others sit.2 free member y)
      | head =>
          refine .inl ?_
          rcases first with ⟨e, single, alone⟩ | ⟨-, ss, all, rfl⟩
          · have all : sproutAll es = .ok [s] := by
              rw [single]
              exact sproutAll_cons_eq_ok.mpr ⟨s, alone, [], rfl, rfl⟩
            rw [← List.append_nil w]
            exact mem_meaningAll formed.1 all ⟨sit.1, trivial⟩ free (.cons (by simpa using y) .nil)
          · have sits := sit.1
            have below : ¬t.IsChoice (some id) := by simp [Sprout.isChoice_iff sits]
            exact mem_meaningAll formed.1 all sits.2 below ((Tree.yields_iff sits.1).mp y)

end

end Expr

theorem Tree.mem_language_framed {ss : List Sprout} {w : List Char}
    (member : w ∈ (framed ss).language extra) : (framed ss).YieldsAll extra (Sprout.ids 1 ss) w := by
  have roots : (framed ss).roots.toList = [0, 1 + Sprout.sizeAll ss] :=
    congrArg Array.toList Builder.roots_framed
  rw [language, roots] at member
  cases member with
  | cons opening others =>
      cases others with
      | cons closing none =>
          cases none
          cases (yields_iff get?_framed_closing).mp closing
          rw [List.append_nil, List.append_nil]
          exact (yields_iff get?_framed_opening).mp opening

theorem Pattern.mem_meaning {atEnd : Span} {ts : List Lexeme} {p : Pattern}
    (whole : Grammar.Whole atEnd ts p) (made : p.tree = .ok t) {w : List Char}
    (member : w ∈ t.language extra) : w ∈ p.meaning silentEscapes := by
  obtain ⟨nonempty, formed⟩ := whole.formed_any
  obtain ⟨ss, sprouted, rfl⟩ := (tree_eq_ok nonempty formed).mp made
  have yields := Tree.mem_language_framed member
  have sit : Subtree.AllSitIn (Tree.framed ss) (some 0) (Sprout.subtreeAll 1 ss) :=
    Tree.allSitIn_framed
  have free : ¬(Tree.framed ss).IsChoice (some 0) := by
    simp [Tree.IsChoice, Tree.get?_framed_opening]
  rw [meaning]
  match branches : p.branches with
  | [] => exact absurd branches nonempty
  | [branch] =>
      rw [branches] at formed sprouted
      exact .inl (Expr.mem_meaningAll formed.1 sprouted sit free yields)
  | es :: es' :: others =>
      rw [branches] at formed sprouted
      obtain ⟨below, all, rfl⟩ := (Expr.sproutAlternation_more_eq_ok (by simp)).mp sprouted
      rw [Sprout.ids_cons] at yields
      cases yields with
      | cons one none =>
          cases none
          have sits := sit.1
          have apart : ¬(Tree.framed [.node .alternative below]).IsChoice (some 1) := by
            simp [Sprout.isChoice_iff sits]
          obtain ⟨child, member, chosen⟩ := (Tree.yields_iff sits.1).mp one
          rw [List.append_nil]
          exact Expr.mem_meaningAny formed all sits.2 apart (List.mem_toArray.mp member) chosen

namespace Generator

/-- The texts that come from a generator: whatever is asked for the repetitions without a maximum, from
    any source, and alone or with others. -/
inductive Produces (g : Generator) : String → Prop
  | drawFrom {σ : Type} [DrawSource σ] {extra : UInt32} {s s' : σ} {text : String}
      (drawn : (g.withExtra extra).drawFrom s = .ok (text, s')) : Produces g text
  | generate {extra : UInt32} {seed : UInt64} {text : String}
      (drawn : (g.withExtra extra).generate seed = .ok text) : Produces g text
  | samplesFrom {σ : Type} [DrawSource σ] {extra : UInt32} {count : Nat} {s s' : σ} {text : String}
      {texts : List String} (drawn : (g.withExtra extra).samplesFrom count s = .ok (texts, s'))
      (member : text ∈ texts) : Produces g text
  | samples {extra : UInt32} {count : Nat} {seed : UInt64} {text : String} {texts : List String}
      (drawn : (g.withExtra extra).samples count seed = .ok texts) (member : text ∈ texts) :
      Produces g text

variable {g : Generator} {text : String}

theorem Produces.exists_mem_language (built : g.tree.Built) (produced : g.Produces text) :
    ∃ extra, text.toList ∈ g.tree.language extra := by
  cases produced with
  | @drawFrom σ source extra s s' text drawn =>
      exact ⟨extra, drawFrom_sound (g := g.withExtra extra) built drawn⟩
  | @generate extra seed text drawn =>
      rw [Generator.generate] at drawn
      cases once : (g.withExtra extra).drawFrom (Seeded.ofSeed seed) with
      | error e => simp [once] at drawn
      | ok result =>
          simp only [once, Except.map_ok, Except.ok.injEq] at drawn
          subst drawn
          exact ⟨extra, drawFrom_sound (g := g.withExtra extra) built once⟩
  | @samplesFrom σ source extra count s s' text texts drawn member =>
      exact ⟨extra, samplesFrom_sound (g := g.withExtra extra) built drawn text member⟩
  | @samples extra count seed text texts drawn member =>
      rw [Generator.samples] at drawn
      cases all : (g.withExtra extra).samplesFrom count (Seeded.ofSeed seed) with
      | error e => simp [all] at drawn
      | ok result =>
          simp only [all, Except.map_ok, Except.ok.injEq] at drawn
          subst drawn
          exact ⟨extra, samplesFrom_sound (g := g.withExtra extra) built all text member⟩

/-- Every text that the generator of a pattern `Produces` is in `Pattern.meaning`, with `silentEscapes`.
    Without an escape in the pattern it is so for every reading of escapes. -/
theorem produces_mem_meaning {pattern : String} (created : ofPattern pattern = .ok g) :
    ∃ ts p, tokenize pattern = .ok ts ∧
      Pattern.ofLexemes (.emptyAt pattern.utf8ByteSize) ts = .ok p ∧
      ∀ text, g.Produces text → text.toList ∈ p.meaning silentEscapes ∧
        ((∀ l ∈ ts, l.token.isEscape = false) → ∀ escapes, text.toList ∈ p.meaning escapes) := by
  have parsed : parse pattern = .ok g.tree := by
    rw [ofPattern] at created
    cases made : parse pattern with
    | error e => simp [made] at created
    | ok t =>
        simp only [made, Except.map_ok, Except.ok.injEq] at created
        rw [← created]
  obtain ⟨ts, p, tokens, whole, made⟩ := parse_eq_ok.mp parsed
  refine ⟨ts, p, tokens, Pattern.ofLexemes_eq_ok.mpr whole, fun text produced => ?_⟩
  obtain ⟨extra, member⟩ := produced.exists_mem_language (Pattern.built_of_tree whole made)
  have matched := Pattern.mem_meaning whole made member
  refine ⟨matched, fun plain escapes => ?_⟩
  rw [Pattern.meaning_of_no_escape whole plain silentEscapes]
  exact matched

def treeOfOptional : Tree :=
  ⟨#[⟨.opening, none, #[1]⟩, ⟨.repetition ⟨0, some 1, by simp⟩, some 0, #[2]⟩,
    ⟨.token (.char 'b'), some 1, #[]⟩, ⟨.closing, none, #[]⟩], #[0, 3]⟩

theorem produces_optional :
    ofPattern "b?" = .ok ⟨treeOfOptional, 5⟩ ∧ (⟨treeOfOptional, 5⟩ : Generator).Produces "b" ∧
      ∃ ts p, tokenize "b?" = .ok ts ∧ Pattern.ofLexemes (.emptyAt "b?".utf8ByteSize) ts = .ok p ∧
        "b".toList ∈ p.meaning silentEscapes := by
  have created : ofPattern "b?" = .ok ⟨treeOfOptional, 5⟩ := by decide +kernel
  have drawn : (⟨treeOfOptional, 5⟩ : Generator).drawFrom [(0x80000000 : UInt32)] = .ok ("b", []) := by
    decide +kernel
  have produced : (⟨treeOfOptional, 5⟩ : Generator).Produces "b" := .drawFrom drawn
  obtain ⟨ts, p, tokens, read, all⟩ := produces_mem_meaning created
  exact ⟨created, produced, ts, p, tokens, read, (all "b" produced).1⟩

end Generator

end PatternSampler
