import Mathlib
import PatternSampler.Proofs.Expr.Readers

/-! # Reading sets

A range is taken wherever there is one, so the items of a set are those of its tokens from left to right.
-/

namespace PatternSampler

open Setback (NotPast notPast_none notPast_here)

variable {atEnd : Span}

namespace Reader

variable {l : Lexeme} {ts rest : List Lexeme}

/-! ## Sets -/

open Grammar (Content)

theorem setToken_reads (inside : l.token ≠ .closeBracket) : (setToken atEnd).Reads (l :: ts) l.token ts :=
  satisfying_reads (by simpa using inside)

theorem setToken_refuses (stop : ∀ l ∈ ts.head?, l.token = .closeBracket) :
    setToken atEnd ts = .refused (.here atEnd .unexpected ts) :=
  satisfying_refuses fun l first => by simpa using stop l first

theorem setItem_refuses (stop : ∀ l ∈ ts.head?, l.token = .closeBracket) :
    setItem atEnd ts = .refused (.here atEnd .unexpected ts) := by
  have no_range : setRange atEnd ts = .refused (.here atEnd .unexpected ts) := by
    simp only [setRange, spanned, followedBy, setToken_refuses stop]
  rw [setItem, refused_orElse no_range (map_refused (setToken_refuses stop) _), Setback.orFurther_self]

theorem setItem_reads_range {dash last : Lexeme} (inside : l.token ≠ .closeBracket)
    (between : dash.token = .dash) (inside' : last.token ≠ .closeBracket) :
    (setItem atEnd).Reads (l :: dash :: last :: ts)
      (.range l.token last.token (l.span.through last.span)) ts := by
  have span : Span.since atEnd (l :: dash :: last :: ts) ts = l.span.through last.span :=
    Span.since_closed l last [dash] ts
  rw [← span]
  exact ((((setToken_reads inside).followedBy (exactly_reads between) (by simp)).followedBy
    (setToken_reads inside') (by simp)).spanned _).orElse

theorem setItem_reads_single (inside : l.token ≠ .closeBracket)
    (no_range : ∀ dash last us, ts = dash :: last :: us → dash.token = .dash →
      last.token = .closeBracket) :
    (setItem atEnd).Reads (l :: ts) (.single l.token) ts := by
  obtain ⟨s, refused⟩ : ∃ s, setRange atEnd (l :: ts) = .refused s := by
    obtain ⟨alt, first, -⟩ := @setToken_reads atEnd l ts inside
    rcases begins_or_not .dash ts with ⟨dash, us, rfl, between⟩ | no_dash
    · have stop : ∀ last ∈ us.head?, last.token = .closeBracket := by
        intro last first
        obtain ⟨us, rfl⟩ := List.head?_eq_some_iff.mp first
        exact no_range dash last us rfl between
      exact ⟨_, by simp only [setRange, spanned, followedBy, first, exactly_takes between,
        setToken_refuses stop]; rfl⟩
    · exact ⟨_, by simp only [setRange, spanned, followedBy, first, exactly_refuses no_dash]; rfl⟩
  exact .orElse_other refused ((setToken_reads inside).map _)

/-- Up to a closing bracket, `many` of `setItem` reads the items of `SetItem.ofLexemes`. -/
theorem many_setItem_reads (inside : ∀ l ∈ ts, l.token ≠ .closeBracket)
    (stop : ∀ l ∈ rest.head?, l.token = .closeBracket) :
    Reads (many (setItem atEnd)) (ts ++ rest) (SetItem.ofLexemes ts) rest := by
  fun_induction SetItem.ofLexemes ts with
  | case1 => exact many_reads_nil (setItem_refuses stop) (by simp)
  | case2 first dash last ts between ih =>
      simp only [List.forall_mem_cons] at inside
      obtain ⟨first_inside, -, last_inside, others⟩ := inside
      exact (setItem_reads_range first_inside between last_inside).many (by simp; omega) (ih others)
        (by simp)
  | case3 first dash last ts no_dash ih =>
      obtain ⟨first_inside, others⟩ := List.forall_mem_cons.mp inside
      have single : (setItem atEnd).Reads (first :: (dash :: last :: ts ++ rest)) (.single first.token)
          (dash :: last :: ts ++ rest) := by
        refine setItem_reads_single first_inside fun dash' last' us eq between => ?_
        cases eq
        exact absurd between no_dash
      exact single.many (by simp) (ih others) (by simp; omega)
  | case4 first ts short ih =>
      obtain ⟨first_inside, others⟩ := List.forall_mem_cons.mp inside
      have single : (setItem atEnd).Reads (first :: (ts ++ rest)) (.single first.token) (ts ++ rest) := by
        refine setItem_reads_single first_inside fun dash last us eq between => ?_
        cases ts with
        | nil =>
            have rest_eq : rest = dash :: last :: us := eq
            exact absurd (stop dash (by rw [rest_eq]; rfl)) (by simp [between])
        | cons x ts =>
            cases ts with
            | nil =>
                have rest_eq : rest = last :: us := (List.cons.inj eq).2
                exact stop last (by rw [rest_eq]; rfl)
            | cons y ts => exact (short x y ts rfl).elim
      exact single.many (by simp) (ih others) (by simp)

/-- What a set is read from, its brackets apart. -/
def setBody (atEnd : Span) : Reader (Option Token × List SetItem) :=
  (optional (exactly atEnd .caret)).followedBy (manyOne (setItem atEnd))

theorem set_eq : set atEnd = spanned atEnd (fun (caret, items) span => .set caret.isSome items span)
    (between atEnd .openBracket .closeBracket (setBody atEnd)) :=
  rfl

theorem setBody_reads {mark : List Lexeme} {negated : Bool} (content : Content mark ts negated)
    (stop : ∀ l ∈ rest.head?, l.token = .closeBracket) :
    ∃ caret : Option Token, caret.isSome = negated ∧
      (setBody atEnd).Reads (mark ++ ts ++ rest) (caret, SetItem.ofLexemes ts) rest := by
  obtain ⟨item, items, eq⟩ := List.exists_cons_of_ne_nil (SetItem.ofLexemes_ne_nil content.nonempty)
  have all : Reads (manyOne (setItem atEnd)) (ts ++ rest) (SetItem.ofLexemes ts) rest := by
    have many := @many_setItem_reads atEnd _ _ content.inside stop
    rw [eq] at many ⊢
    exact many.manyOne
  cases content.mark with
  | absent =>
      have no_caret : ∀ l ∈ (ts ++ rest).head?, l.token ≠ .caret := by
        rw [List.head?_append_of_ne_nil _ content.nonempty]
        exact content.marked rfl
      have optional : (Reader.optional (exactly atEnd .caret)).Reads (ts ++ rest) none (ts ++ rest) :=
        optional_reads_none (exactly_refuses no_caret) (by simp)
      exact ⟨none, rfl, optional.followedBy all (by simp)⟩
  | present token => exact ⟨some .caret, rfl, (exactly_reads token).optional.followedBy all (by simp)⟩

theorem setBody_refuses {mark : List Lexeme} {negated : Bool}
    (marks : Grammar.Maybe .caret mark negated) (stop : ∀ l ∈ rest.head?, l.token = .closeBracket) :
    setBody atEnd (mark ++ rest) = .refused (.here atEnd .unexpected rest) := by
  have no_items := manyOne_refused (@setItem_refuses atEnd _ stop)
  cases marks with
  | absent =>
      have no_caret : ∀ l ∈ rest.head?, l.token ≠ .caret := fun l first => by simp [stop l first]
      simp only [setBody, List.nil_append, followedBy, optional, exactly_refuses no_caret, no_items,
        Setback.orFurther_self]
  | present token =>
      simp only [setBody, List.singleton_append, followedBy, optional, exactly_takes token, no_items,
        Setback.orFurther_none]

/-- The reader `set` takes what `Grammar.Content` derives between brackets. -/
theorem set_reads {opening closing : Lexeme} {mark : List Lexeme} {negated : Bool}
    (opens : opening.token = .openBracket) (content : Content mark ts negated)
    (closes : closing.token = .closeBracket) :
    (set atEnd).Reads (opening :: (mark ++ ts ++ closing :: rest))
      (.set negated (SetItem.ofLexemes ts) (opening.span.through closing.span)) rest := by
  obtain ⟨caret, rfl, body⟩ := @setBody_reads atEnd _ (closing :: rest) _ _ content (by simpa using closes)
  rw [← Span.since_closed opening closing (mark ++ ts) rest, set_eq]
  exact (between_reads opens body (by simp; omega) closes).spanned _

theorem set_of_openBracket {opening : Lexeme} (opens : opening.token = .openBracket)
    (ts : List Lexeme) :
    (∃ mark us negated closing rest, ts = mark ++ us ++ closing :: rest ∧ Content mark us negated ∧
        closing.token = .closeBracket) ∨
      ∃ s, set atEnd (opening :: ts) = .refused s ∧ s.left ≤ ts.length ∧
        ∀ d, Place.fault atEnd (.set d) ts = some s := by
  obtain ⟨mark, body, negated, rfl, marks, marked⟩ := exists_maybe .caret ts
  obtain ⟨us, rest, rfl, inside, stop⟩ := exists_run (·.token ≠ .closeBracket) body
  simp only [decide_eq_true_eq, decide_eq_false_iff_not, not_not] at inside stop
  by_cases nonempty : us = []
  · subst nonempty
    right
    rw [List.nil_append]
    refine ⟨.here atEnd .unexpected rest, ?_, by simp, fun d => ?_⟩
    · rw [set_eq, spanned_refused (between_refused opens (setBody_refuses marks stop))]
    · cases marks with
      | absent => exact Place.fault_stuck (fun l first => by simp [Place.next?, stop l first]) rfl
      | @present caret token =>
          have marked : Place.next? (.set d) caret = some (.mark d) := if_pos token
          rw [List.singleton_append, Place.fault_cons marked]
          exact Place.fault_stuck (fun l first => by simp [Place.next?, stop l first]) rfl
  · have content : Content mark us negated := by
      refine ⟨marks, nonempty, inside, ?_⟩
      rwa [List.head?_append_of_ne_nil _ nonempty] at marked
    cases rest with
    | cons closing rest =>
        exact .inl ⟨mark, us, negated, closing, rest, by simp, content, stop closing rfl⟩
    | nil =>
        obtain ⟨caret, -, body⟩ := @setBody_reads atEnd _ [] _ _ content nofun
        right
        refine ⟨.here atEnd .unexpected [], ?_, by simp, fun d => ?_⟩
        · rw [set_eq, ← List.append_assoc,
            spanned_refused (between_reads_not_closed opens body nofun)]
        · rw [← List.append_assoc, Place.fault_append (Place.run_content content)]
          rfl

end Reader

end PatternSampler
