import Mathlib
import PatternSampler.Proofs.Expr.Everywhere
import PatternSampler.Proofs.Expr.Patterns

/-! # How the tokens of a set are cut

A caret directly behind an opening bracket is the negation mark. What comes then, up to the first closing
bracket, is the content of the set. Brackets are a set if there is some content and if they are closed, and
the items of the set are its content cut from left to right. No token is lost or used twice: the items,
written one after the other, are the content again.
-/

namespace PatternSampler

open Grammar (Content Maybe)

namespace SetItem

/-- The tokens that an item is cut from, the dash of a range among them. -/
def written : SetItem → List Token
  | single t => [t]
  | range first last _ => [first, .dash, last]

theorem flatMap_written (ts : List Lexeme) : (ofLexemes ts).flatMap written = ts.map (·.token) := by
  fun_induction ofLexemes ts with
  | case1 => rfl
  | case2 first dash last ts between ih => simp [written, between, ih]
  | case3 first dash last ts no_dash ih | case4 first ts short ih => simp [written, ih]

/-- The first dash of `a-b-c` takes both its neighbours, so that the second one is a character itself. -/
example :
    ofLexemes [⟨.char 'a', ⟨1, 2⟩⟩, ⟨.dash, ⟨2, 3⟩⟩, ⟨.char 'b', ⟨3, 4⟩⟩, ⟨.dash, ⟨4, 5⟩⟩,
        ⟨.char 'c', ⟨5, 6⟩⟩] =
      [.range (.char 'a') (.char 'b') ⟨1, 4⟩, .single .dash, .single (.char 'c')] := by
  decide

end SetItem

/-- What stands behind an opening bracket. -/
structure Bracketed where
  /-- Whether the negation mark comes first. -/
  negated : Bool
  /-- What comes then, up to the first closing bracket. -/
  content : List Lexeme
  /-- The closing bracket and what is behind it, or nothing if the bracket is never closed. -/
  rest : List Lexeme
  deriving Repr, DecidableEq

namespace Bracketed

def cut (negated : Bool) (ts : List Lexeme) : Bracketed :=
  ⟨negated, ts.takeWhile (·.token ≠ .closeBracket), ts.dropWhile (·.token ≠ .closeBracket)⟩

def ofLexemes : List Lexeme → Bracketed
  | [] => cut false []
  | l :: ts => if l.token = .caret then cut true ts else cut false (l :: ts)

variable {ts us mark rest : List Lexeme} {negated : Bool}

theorem ofLexemes_mark (marks : Maybe .caret mark negated)
    (plain : negated = false → ∀ l ∈ ts.head?, l.token ≠ .caret) :
    ofLexemes (mark ++ ts) = cut negated ts := by
  cases marks with
  | present token => exact if_pos token
  | absent =>
      cases ts with
      | nil => rfl
      | cons l ts => exact if_neg (plain rfl l rfl)

theorem rest_closes (ts : List Lexeme) : ∀ l ∈ (ofLexemes ts).rest.head?, l.token = .closeBracket := by
  obtain ⟨mark, body, negated, rfl, marks, plain⟩ := Reader.exists_maybe .caret ts
  intro l first
  rw [ofLexemes_mark marks plain, cut, Option.mem_def] at first
  have stops := List.head?_dropWhile_not (·.token ≠ .closeBracket) body
  rw [first] at stops
  simpa using stops

theorem exists_content (nonempty : (ofLexemes ts).content ≠ []) :
    ∃ mark, Content mark (ofLexemes ts).content (ofLexemes ts).negated ∧
      ts = mark ++ (ofLexemes ts).content ++ (ofLexemes ts).rest := by
  obtain ⟨mark, body, negated, rfl, marks, plain⟩ := Reader.exists_maybe .caret ts
  rw [ofLexemes_mark marks plain] at nonempty ⊢
  refine ⟨mark, ⟨marks, nonempty, ?_, ?_⟩, ?_⟩
  · intro l member
    simpa using List.mem_takeWhile_imp member
  · intro no_mark l first
    apply plain no_mark l
    rw [cut, List.head?_takeWhile] at first
    exact (Option.filter_eq_some_iff.mp first).1
  · rw [cut, List.append_assoc, List.takeWhile_append_dropWhile]

/-- `Bracketed.ofLexemes` finds the `Grammar.Content` between brackets again. -/
theorem ofLexemes_of_content {closing : Lexeme} (content : Content mark us negated)
    (closes : closing.token = .closeBracket) :
    ofLexemes (mark ++ us ++ closing :: rest) = ⟨negated, us, closing :: rest⟩ := by
  have inside : ∀ l ∈ us, decide (l.token ≠ .closeBracket) = true := by simpa using content.inside
  have plain : negated = false → ∀ l ∈ (us ++ closing :: rest).head?, l.token ≠ .caret := by
    rw [List.head?_append_of_ne_nil _ content.nonempty]
    exact content.marked
  rw [List.append_assoc, ofLexemes_mark content.mark plain, cut, List.takeWhile_append_of_pos inside,
    List.takeWhile_cons_of_neg (by simp [closes]), List.append_nil, List.dropWhile_append_of_pos inside,
    List.dropWhile_cons_of_neg (by simp [closes])]

end Bracketed

/-- Expressions that are sets are read as sets behind a bracket of `ts`. -/
def Expr.IsReadIn (atEnd : Span) (ts : List Lexeme) : Expr → Prop
  | .set negated items span => ∃ bracket us rest alt, ⟨.openBracket, bracket⟩ :: us <:+ ts ∧
      Reader.set atEnd (⟨.openBracket, bracket⟩ :: us) = .done (.set negated items span) rest alt
  | _ => True

namespace Reader

variable {atEnd bracket : Span} {ts : List Lexeme}

/-- If `Bracketed.ofLexemes` finds some content and a closing bracket, `set` reads the content as
    `SetItem.ofLexemes` cuts it. -/
theorem set_reads_bracketed {closing : Lexeme} {rest : List Lexeme}
    (nonempty : (Bracketed.ofLexemes ts).content ≠ [])
    (closed : (Bracketed.ofLexemes ts).rest = closing :: rest) :
    (set atEnd).Reads (⟨.openBracket, bracket⟩ :: ts)
      (.set (Bracketed.ofLexemes ts).negated (SetItem.ofLexemes (Bracketed.ofLexemes ts).content)
        (bracket.through closing.span)) rest := by
  obtain ⟨mark, content, cut⟩ := Bracketed.exists_content nonempty
  rw [closed] at cut
  have closes : closing.token = .closeBracket := by
    apply Bracketed.rest_closes ts
    rw [closed, List.head?_cons, Option.mem_some_iff]
  have reads := @set_reads atEnd _ rest ⟨.openBracket, bracket⟩ closing mark _ rfl content closes
  rwa [← cut] at reads

theorem set_refuses_bracketed
    (missing : (Bracketed.ofLexemes ts).content = [] ∨ (Bracketed.ofLexemes ts).rest = []) :
    ∃ s, set atEnd (⟨.openBracket, bracket⟩ :: ts) = .refused s := by
  rcases @set_of_openBracket atEnd ⟨.openBracket, bracket⟩ rfl ts with
    ⟨mark, us, negated, closing, rest, rfl, content, closes⟩ | ⟨s, refused, -, -⟩
  · rw [Bracketed.ofLexemes_of_content content closes] at missing
    rcases missing with empty | unclosed
    · exact absurd empty content.nonempty
    · cases unclosed
  · exact ⟨s, refused⟩

theorem set_bracketed_cases (atEnd bracket : Span) (ts : List Lexeme) :
    (∃ closing rest, (Bracketed.ofLexemes ts).content ≠ [] ∧
      (Bracketed.ofLexemes ts).rest = closing :: rest ∧
      (set atEnd).Reads (⟨.openBracket, bracket⟩ :: ts)
        (.set (Bracketed.ofLexemes ts).negated (SetItem.ofLexemes (Bracketed.ofLexemes ts).content)
          (bracket.through closing.span)) rest) ∨
    ((Bracketed.ofLexemes ts).content = [] ∨ (Bracketed.ofLexemes ts).rest = []) ∧
      ∃ s, set atEnd (⟨.openBracket, bracket⟩ :: ts) = .refused s := by
  by_cases missing : (Bracketed.ofLexemes ts).content = [] ∨ (Bracketed.ofLexemes ts).rest = []
  · exact .inr ⟨missing, set_refuses_bracketed missing⟩
  · obtain ⟨nonempty, closed⟩ := not_or.mp missing
    obtain ⟨closing, rest, behind⟩ := List.exists_cons_of_ne_nil closed
    exact .inl ⟨closing, rest, nonempty, behind, set_reads_bracketed nonempty behind⟩

theorem atom_refused_iff_set (alternation : Reader (List Branch)) (s : Setback) :
    atom atEnd alternation (⟨.openBracket, bracket⟩ :: ts) = .refused s ↔
      set atEnd (⟨.openBracket, bracket⟩ :: ts) = .refused s := by
  rcases @set_of_openBracket atEnd ⟨.openBracket, bracket⟩ rfl ts with
    ⟨mark, us, negated, closing, rest, rfl, content, closes⟩ | ⟨s', refused, within, -⟩
  · obtain ⟨alt, done, -⟩ :=
      @set_reads atEnd us rest ⟨.openBracket, bracket⟩ closing mark negated rfl content closes
    obtain ⟨alt', done', -⟩ :=
      @atom_reads_set atEnd us rest alternation ⟨.openBracket, bracket⟩ closing mark negated rfl content
        closes
    rw [done, done']
    simp only [reduceCtorEq]
  · rw [refused, atom_refused_of_set rfl refused within]

theorem isReadIn_of_ofLexemes {p : Pattern} (read : Pattern.ofLexemes atEnd ts = .ok p) :
    Expr.EverywhereInAll (Expr.IsReadIn atEnd ts) p.branches := by
  apply (Pattern.ofLexemes_eq_ok.mp read).everywhere
  intro us e within element
  cases element with
  | quantified => trivial
  | once atom =>
      cases atom with
      | token => trivial
      | group => trivial
      | @set opening closing mark inner negated opens content closes =>
          obtain ⟨before, after, rfl⟩ := within
          obtain ⟨bracket, place⟩ := opening
          subst opens
          obtain ⟨alt, done, -⟩ :=
            @set_reads atEnd inner after ⟨.openBracket, place⟩ closing mark negated rfl content closes
          exact ⟨place, mark ++ inner ++ closing :: after, after, alt, ⟨before, by simp⟩, done⟩

/-- `set` is done exactly where `Bracketed.ofLexemes` finds some content and a closing bracket, and
    otherwise refused, as is `atom`. Its items are those of `SetItem.ofLexemes`, from which
    `SetItem.written` gives back the content. All sets of a pattern are read so (`Expr.IsReadIn`). -/
theorem set_segmented (atEnd : Span) :
    (∀ (bracket : Span) (ts : List Lexeme),
      let opened : List Lexeme := ⟨.openBracket, bracket⟩ :: ts
      let brackets := Bracketed.ofLexemes ts
      let items := SetItem.ofLexemes brackets.content
      (∀ e rest, (∃ alt, set atEnd opened = .done e rest alt) ↔
        brackets.content ≠ [] ∧ ∃ closing, brackets.rest = closing :: rest ∧
          e = .set brackets.negated items (bracket.through closing.span)) ∧
      items.flatMap SetItem.written = brackets.content.map (·.token) ∧
      ((∃ s, set atEnd opened = .refused s) ↔ brackets.content = [] ∨ brackets.rest = []) ∧
      ∀ alternation s, atom atEnd alternation opened = .refused s ↔ set atEnd opened = .refused s) ∧
    ∀ (ts : List Lexeme) (p : Pattern), Pattern.ofLexemes atEnd ts = .ok p →
      Expr.EverywhereInAll (Expr.IsReadIn atEnd ts) p.branches := by
  refine ⟨fun bracket ts => ?_, fun ts p => isReadIn_of_ofLexemes⟩
  intro opened brackets items
  refine ⟨fun e rest => ⟨?_, ?_⟩, SetItem.flatMap_written _, ⟨?_, set_refuses_bracketed⟩,
    atom_refused_iff_set⟩
  · rintro ⟨alt, done⟩
    rcases set_bracketed_cases atEnd bracket ts with
      ⟨closing, rest', nonempty, behind, alt', done', -⟩ | ⟨-, s, refused⟩
    · cases done.symm.trans done'
      exact ⟨nonempty, closing, behind, rfl⟩
    · cases refused.symm.trans done
  · rintro ⟨nonempty, closing, behind, rfl⟩
    obtain ⟨alt, done, -⟩ := @set_reads_bracketed atEnd bracket ts closing rest nonempty behind
    exact ⟨alt, done⟩
  · rintro ⟨s, refused⟩
    rcases set_bracketed_cases atEnd bracket ts with ⟨closing, rest, -, -, alt, done, -⟩ | ⟨missing, -⟩
    · cases refused.symm.trans done
    · exact missing

/-- The set `[^--a-]`: a mark, a range from a dash to a letter, and a dash. -/
theorem set_segmented_dashes :
    let ts : List Lexeme := [.caret, .dash, .dash, .char 'a', .dash, .closeBracket].map (⟨·, .emptyAt 0⟩)
    (∃ alt, set (.emptyAt 0) (⟨.openBracket, .emptyAt 0⟩ :: ts) =
      .done (.set true [.range .dash (.char 'a') (.emptyAt 0), .single .dash] (.emptyAt 0)) [] alt) ∧
    ∃ p, Pattern.ofLexemes (.emptyAt 0) (⟨.openBracket, .emptyAt 0⟩ :: ts) = .ok p ∧
      Expr.EverywhereInAll (Expr.IsReadIn (.emptyAt 0) (⟨.openBracket, .emptyAt 0⟩ :: ts)) p.branches := by
  intro ts
  obtain ⟨behind, inside⟩ := set_segmented (.emptyAt 0)
  have read : (Pattern.ofLexemes (.emptyAt 0) (⟨.openBracket, .emptyAt 0⟩ :: ts)).isOk = true := by
    decide +kernel
  refine ⟨((behind (.emptyAt 0) ts).1 _ []).mpr ⟨by decide, ⟨.closeBracket, .emptyAt 0⟩, by decide, rfl⟩, ?_⟩
  cases made : Pattern.ofLexemes (.emptyAt 0) (⟨.openBracket, .emptyAt 0⟩ :: ts) with
  | error e =>
      rw [made] at read
      cases read
  | ok p => exact ⟨p, rfl, inside _ p made⟩

end Reader

end PatternSampler
