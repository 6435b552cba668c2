import Mathlib
import PatternSampler.Proofs.Parse.Lowering

/-! # Patterns at other places

Spans are kept for the sake of messages. Tokens that are moved to other places are a pattern there if
they were one before, and what is added to a tree for an expression does not go by its spans.
-/

namespace PatternSampler

namespace Span

/-- What reaches from one place to another still does so where the two are moved to. -/
def Joins (f : Span → Span) : Prop := ∀ a b : Span, f (a.through b) = (f a).through (f b)

/-- The span where everything stands `n` bytes further on. -/
def shift (n : Nat) (span : Span) : Span := ⟨n + span.start, n + span.stop⟩

theorem joins_shift (n : Nat) : Joins (shift n) := fun _ _ => rfl

theorem joins_same : Joins fun span => span := fun _ _ => rfl

end Span

def Lexeme.mapSpan (f : Span → Span) (l : Lexeme) : Lexeme := ⟨l.token, f l.span⟩

def SetItem.mapSpan (f : Span → Span) : SetItem → SetItem
  | single t => .single t
  | range first last span => .range first last (f span)

namespace ParseError

def mapSpan (f : Span → Span) : ParseError → ParseError
  | lex e => .lex e
  | grammar problem span => .grammar problem (f span)
  | invalid source span => .invalid source (f span)
  | unsupported construct span => .unsupported construct (f span)

end ParseError

namespace Expr

mutual

def mapSpan (f : Span → Span) : Expr → Expr
  | .token t span => .token t (f span)
  | .group branches span => .group (mapSpanBranches f branches) (f span)
  | .set negated items span => .set negated (items.map (·.mapSpan f)) (f span)
  | .quantified atom bounds span => .quantified (atom.mapSpan f) bounds (f span)

def mapSpanAll (f : Span → Span) : List Expr → List Expr
  | [] => []
  | e :: es => e.mapSpan f :: mapSpanAll f es

def mapSpanBranches (f : Span → Span) : List (List Expr) → List (List Expr)
  | [] => []
  | es :: branches => mapSpanAll f es :: mapSpanBranches f branches

end

variable {f : Span → Span}

/-! ## What is added to a tree -/

theorem mapError_at (x : Except ValidationError α) (span : Span) :
    (ValidationError.at span x).mapError (·.mapSpan f) = ValidationError.at (f span) x := by
  cases x <;> rfl

theorem sprout_moved_item (item : SetItem) :
    (item.mapSpan f).sprout = item.sprout.mapError (·.mapSpan f) := by
  cases item with
  | single t => rfl
  | range first last span =>
      rw [SetItem.mapSpan, SetItem.sprout, SetItem.sprout, mapError_then, mapError_at]
      rfl

theorem sproutItems_moved (items : List SetItem) :
    sproutItems (items.map (·.mapSpan f)) = (sproutItems items).mapError (·.mapSpan f) := by
  induction items with
  | nil => rfl
  | cons item items ih =>
      simp only [List.map_cons, sproutItems, sprout_moved_item, ih, mapError_then]
      rfl

mutual

/-- `Expr.sprout` uses spans only for its errors. -/
theorem sprout_moved (e : Expr) : (e.mapSpan f).sprout = e.sprout.mapError (·.mapSpan f) := by
  cases e with
  | token t span => rfl
  | group branches span =>
      match branches with
      | [branch] =>
          rw [mapSpan, mapSpanBranches, mapSpanBranches, sprout, sprout, sproutAll_moved branch,
            mapError_then]
          refine congrArg _ (funext fun ss => ?_)
          split <;> rfl
      | [] | _ :: _ :: _ =>
          rw [mapSpan, sprout, sprout, sproutBranches_moved, mapError_then]
          · rfl
          all_goals simp [mapSpanBranches]
  | set negated items span =>
      rw [mapSpan, sprout, sprout, sproutItems_moved]
      cases negated with
      | true => rfl
      | false =>
          rw [if_neg Bool.false_ne_true, if_neg Bool.false_ne_true, mapError_then]
          rfl
  | quantified atom bounds span =>
      rw [mapSpan, sprout, sprout, sprout_moved atom, mapError_then, mapError_at]
      simp only [mapError_then]
      rfl

theorem sproutAll_moved (es : List Expr) :
    sproutAll (mapSpanAll f es) = (sproutAll es).mapError (·.mapSpan f) := by
  cases es with
  | nil => rfl
  | cons e es =>
      rw [mapSpanAll, sproutAll, sproutAll, sprout_moved e, sproutAll_moved es]
      simp only [mapError_then]
      rfl

theorem sproutBranches_moved (span : Span) (branches : List (List Expr)) :
    sproutBranches (f span) (mapSpanBranches f branches) =
      (sproutBranches span branches).mapError (·.mapSpan f) := by
  match branches with
  | [] | [] :: _ => rfl
  | [e] :: branches =>
      rw [mapSpanBranches, mapSpanAll, mapSpanAll, sproutBranches, sproutBranches, sprout_moved e,
        sproutBranches_moved span branches]
      simp only [mapError_then]
      rfl
  | (e :: e' :: es) :: branches =>
      have all := sproutAll_moved (e :: e' :: es)
      rw [mapSpanBranches]
      simp only [mapSpanAll] at all ⊢
      rw [sproutBranches, sproutBranches, all, sproutBranches_moved span branches]
      · simp only [mapError_then]
        rfl
      all_goals simp

end

theorem sproutAlternation_moved (span : Span) (branches : List Branch) :
    sproutAlternation (f span) (mapSpanBranches f branches) =
      (sproutAlternation span branches).mapError (·.mapSpan f) := by
  match branches with
  | [branch] => exact sproutAll_moved branch
  | [] | _ :: _ :: _ =>
      rw [sproutAlternation, sproutAlternation, sproutBranches_moved, mapError_then]
      · rfl
      all_goals simp [mapSpanBranches]

theorem sproutAll_mapSpanAll (es : List Expr) {ss : List Sprout} :
    sproutAll (mapSpanAll f es) = .ok ss ↔ sproutAll es = .ok ss := by
  rw [sproutAll_moved, mapError_eq_ok]

theorem sproutBranches_of_span {span : Span} (span' : Span) {branches : List (List Expr)}
    {ss : List Sprout} (sprouted : sproutBranches span branches = .ok ss) :
    sproutBranches span' branches = .ok ss := by
  induction branches generalizing ss with
  | nil => exact sprouted
  | cons es branches ih =>
      obtain ⟨s, first, ss, others, rfl⟩ := sproutBranches_cons_eq_ok.mp sprouted
      exact sproutBranches_cons_eq_ok.mpr ⟨s, first, ss, ih others, rfl⟩

theorem sproutAlternation_of_span {span : Span} (span' : Span) {branches : List Branch}
    {ss : List Sprout} (sprouted : sproutAlternation span branches = .ok ss) :
    sproutAlternation span' branches = .ok ss := by
  match branches with
  | [branch] => exact sprouted
  | [] | _ :: _ :: _ =>
      obtain ⟨below, all, rfl⟩ := (sproutAlternation_more_eq_ok (by simp)).mp sprouted
      exact (sproutAlternation_more_eq_ok (by simp)).mpr ⟨below, sproutBranches_of_span span' all, rfl⟩

theorem sproutAlternation_mapSpanBranches (span span' : Span) (branches : List Branch)
    {ss : List Sprout} : sproutAlternation span (mapSpanBranches f branches) = .ok ss ↔
      sproutAlternation span' branches = .ok ss := by
  constructor
  · intro sprouted
    have moved := sproutAlternation_of_span (f span') sprouted
    rwa [sproutAlternation_moved, mapError_eq_ok] at moved
  · intro sprouted
    have moved : sproutAlternation (f span') (mapSpanBranches f branches) = .ok ss := by
      rwa [sproutAlternation_moved, mapError_eq_ok]
    exact sproutAlternation_of_span span moved

end Expr

/-! ## What is a pattern -/

theorem Lexeme.map_mapSpan_same (ts : List Lexeme) : ts.map (·.mapSpan fun span => span) = ts :=
  List.map_id ts

namespace Grammar

variable {f : Span → Span} {atEnd : Span} {ts : List Lexeme}

theorem tokens_mapSpan : (ts.map (·.mapSpan f)).map (·.token) = ts.map (·.token) := by
  simp [Lexeme.mapSpan]

theorem Number.mapSpan {n : Nat} (number : Number ts n) : Number (ts.map (·.mapSpan f)) n :=
  ⟨by simpa using number.nonempty, List.forall_mem_map.mpr number.digits,
    (congrArg numeral tokens_mapSpan).trans number.value, number.small⟩

theorem Quantifier.mapSpan {bounds : Bounds} (quantifier : Quantifier ts bounds) :
    Quantifier (ts.map (·.mapSpan f)) bounds := by
  cases quantifier with
  | star token => exact .star token
  | plus token => exact .plus token
  | question token => exact .question token
  | exactly opens number closes =>
      rw [List.map_cons, List.map_append]
      exact .exactly opens number.mapSpan closes
  | atLeast opens number between closes =>
      rw [List.map_cons, List.map_append]
      exact .atLeast opens number.mapSpan between closes
  | range opens number between number' closes =>
      rw [List.map_cons, List.map_append, List.map_cons, List.map_append]
      exact .range opens number.mapSpan between number'.mapSpan closes

theorem Maybe.mapSpan {t : Token} {present : Bool} (maybe : Maybe t ts present) :
    Maybe t (ts.map (·.mapSpan f)) present := by
  cases maybe with
  | absent => exact .absent
  | present token => exact .present token

theorem Content.mapSpan {mark : List Lexeme} {negated : Bool} (content : Content mark ts negated) :
    Content (mark.map (·.mapSpan f)) (ts.map (·.mapSpan f)) negated := by
  refine ⟨content.mark.mapSpan, by simpa using content.nonempty,
    List.forall_mem_map.mpr content.inside, fun plain => ?_⟩
  rw [List.head?_map, Option.forall_mem_map]
  exact content.marked plain

theorem since_mapSpan (atEnd atEnd' : Span) (joins : Span.Joins f) (nonempty : ts ≠ []) :
    Span.since atEnd' (ts.map (·.mapSpan f)) [] = f (Span.since atEnd ts []) := by
  obtain ⟨l, ts, rfl⟩ := List.exists_cons_of_ne_nil nonempty
  simp only [Span.since, List.map_cons, List.length_nil, Nat.sub_zero, List.take_length]
  rw [← List.map_cons, List.getLast?_map, Option.getD_map, joins]
  rfl

theorem ofLexemes_mapSpan (joins : Span.Joins f) (ts : List Lexeme) :
    SetItem.ofLexemes (ts.map (·.mapSpan f)) = (SetItem.ofLexemes ts).map (·.mapSpan f) := by
  fun_induction SetItem.ofLexemes ts with
  | case1 => rfl
  | case2 first dash last ts between ih =>
      have between' : (dash.mapSpan f).token = .dash := between
      simp only [List.map_cons, SetItem.ofLexemes, if_pos between', ih, SetItem.mapSpan, joins first.span]
      rfl
  | case3 first dash last ts no_dash ih =>
      have no_dash' : (dash.mapSpan f).token ≠ .dash := no_dash
      simp only [List.map_cons, SetItem.ofLexemes, if_neg no_dash', SetItem.mapSpan] at ih ⊢
      rw [ih]
      rfl
  | case4 first ts short ih =>
      match ts with
      | [] => rfl
      | [_] => rfl
      | dash :: last :: ts => exact (short dash last ts rfl).elim

mutual

/-- `Grammar.Atom` is kept by every map of spans that `Joins` them. -/
theorem Atom.mapSpan {ts : List Lexeme} {e : Expr} (atEnd' : Span) (joins : Span.Joins f)
    (atom : Atom atEnd ts e) : Atom atEnd' (ts.map (·.mapSpan f)) (e.mapSpan f) := by
  cases atom with
  | token alone => exact .token alone
  | set opens content closes =>
      rw [List.map_cons, List.map_append, List.map_append, Expr.mapSpan, joins, ← ofLexemes_mapSpan joins]
      exact .set opens content.mapSpan closes
  | group opens inside closes =>
      rw [List.map_cons, List.map_append, Expr.mapSpan, joins]
      exact .group opens (inside.mapSpan atEnd' joins) closes
termination_by (sizeOf e, 0)

theorem Element.mapSpan {ts : List Lexeme} {e : Expr} (atEnd' : Span) (joins : Span.Joins f)
    (element : Element atEnd ts e) : Element atEnd' (ts.map (·.mapSpan f)) (e.mapSpan f) := by
  match element with
  | .once atom => exact .once (atom.mapSpan atEnd' joins)
  | .quantified atom quantifier =>
      have nonempty := (Element.quantified atom quantifier).ne_nil
      rw [Expr.mapSpan, ← since_mapSpan atEnd atEnd' joins nonempty, List.map_append]
      exact .quantified (atom.mapSpan atEnd' joins) quantifier.mapSpan
termination_by (sizeOf e, 1)

theorem Elements.mapSpan {ts : List Lexeme} {es : Branch} (atEnd' : Span) (joins : Span.Joins f)
    (elements : Elements atEnd ts es) :
    Elements atEnd' (ts.map (·.mapSpan f)) (Expr.mapSpanAll f es) := by
  cases elements with
  | nil => exact .nil
  | cons first others =>
      rw [List.map_append]
      exact .cons (first.mapSpan atEnd' joins) (others.mapSpan atEnd' joins)
termination_by (sizeOf es, 0)

theorem Alternation.mapSpan {ts : List Lexeme} {branches : List Branch} (atEnd' : Span)
    (joins : Span.Joins f) (alternation : Alternation atEnd ts branches) :
    Alternation atEnd' (ts.map (·.mapSpan f)) (Expr.mapSpanBranches f branches) := by
  cases alternation with
  | one branch => exact .one (branch.mapSpan atEnd' joins)
  | more branch between others =>
      rw [List.map_append, List.map_cons]
      exact .more (branch.mapSpan atEnd' joins) between (others.mapSpan atEnd' joins)
termination_by (sizeOf branches, 0)

end

end Grammar

end PatternSampler
