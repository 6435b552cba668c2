import Mathlib
import PatternSampler.Proofs.Expr.Elements

/-! # Reading whole patterns

The reading of a pattern succeeds just where the grammar derives it, and with what the grammar derives.
Where it does not succeed, the refusal is that of the first token that cannot stand where it stands.
-/

namespace PatternSampler

open Grammar

variable {atEnd : Span} {ts : List Lexeme}

namespace Reader

/-- The reader of a pattern without what is made of it in the end. -/
def frame (atEnd : Span) : Reader (((Option Token × List Branch) × Option Token) × Unit) :=
  (((optional (exactly atEnd .caret)).followedBy (alternation atEnd)).followedBy
    (optional (exactly atEnd .dollar))).followedBy finished

theorem pattern_eq : pattern atEnd = spanned atEnd
    (fun (((caret, branches), dollar), _) span => ⟨caret.isSome, dollar.isSome, branches, span⟩)
    (frame atEnd) :=
  rfl

theorem caret_reads {before : List Lexeme} {start : Bool} (caret : Maybe .caret before start)
    (no_more : start = false → ∀ l ∈ ts.head?, l.token ≠ .caret) :
    ∃ t : Option Token, t.isSome = start ∧
      (optional (exactly atEnd .caret)).Reads (before ++ ts) t ts := by
  cases caret with
  | absent => exact ⟨none, rfl, optional_reads_none (exactly_refuses (no_more rfl)) (by simp)⟩
  | present token => exact ⟨some .caret, rfl, (exactly_reads token).optional⟩

theorem alternation_reads {bs : List Branch} {q q' : Place} {rest : List Lexeme}
    (h : Alternation atEnd ts bs) (opens : q.Opens 0) (reached : q.run ts = some q')
    (settled : q'.Settled 0 rest)
    (stop : ∀ l ∈ rest.head?, l.token.startsAtom = false ∧ l.token ≠ .pipe) :
    (alternation atEnd).Reads (ts ++ rest) bs rest := by
  rw [Reads, alternation_eq]
  exact branches_reads h opens le_rfl reached settled (fun l first => (stop l first).1)
    fun l first => (stop l first).2

theorem dollar_reads {after : List Lexeme} {stop : Bool} (dollar : Maybe .dollar after stop) :
    ∃ t : Option Token, t.isSome = stop ∧ (optional (exactly atEnd .dollar)).Reads after t [] := by
  cases dollar with
  | absent => exact ⟨none, rfl, optional_reads_none (exactly_refuses nofun) rfl⟩
  | present token => exact ⟨some .dollar, rfl, (exactly_reads token).optional⟩

/-- The reader `pattern` takes all tokens of what `Grammar.Whole` derives. -/
theorem pattern_reads {p : Pattern} (whole : Whole atEnd ts p) : (pattern atEnd).Reads ts p [] := by
  cases whole with
  | @intro before ts after start stop branches caret body dollar =>
      have opens : Place.Opens 0 (.element 0) := .inl rfl
      obtain ⟨q, opens', reached⟩ := Place.run_alternation body opens
      have only_dollar : ∀ l ∈ after.head?, l.token = .dollar := by
        cases dollar with
        | absent => nofun
        | present token => exact forall_head_cons token
      have settled : q.Settled 0 after := fun l first =>
        (opens'.next? (only_dollar l first) rfl).trans (by rw [only_dollar l first])
      have no_more : ∀ l ∈ (ts ++ after).head?, l.token ≠ .caret := by
        cases ts with
        | nil =>
            intro l first
            rw [only_dollar l first]
            nofun
        | cons l ts =>
            rintro l' ⟨⟩ caret
            have stuck : Place.next? (.element 0) l = none := by
              rw [Place.next?, caret]
              rfl
            rw [Place.run, stuck] at reached
            cases reached
      obtain ⟨t, rfl, first⟩ := @caret_reads atEnd (ts ++ after) _ _ caret fun _ => no_more
      obtain ⟨t', rfl, last⟩ := @dollar_reads atEnd _ _ dollar
      have middle := alternation_reads body opens reached settled fun l first => by
        rw [only_dollar l first]
        exact ⟨rfl, nofun⟩
      have finished : Reads finished [] () [] := ⟨none, rfl, Setback.notPast_none⟩
      rw [pattern_eq, List.append_assoc]
      exact (((first.followedBy middle (by simp)).followedBy last (by simp)).followedBy finished
        le_rfl).spanned _

theorem exists_caret (ts : List Lexeme) :
    ∃ mark body start q, ts = mark ++ body ∧ Maybe .caret mark start ∧
      (start = false → ∀ l ∈ body.head?, l.token ≠ .caret) ∧ q.Opens 0 ∧
      Place.start.run mark = some q ∧ q.Settled 0 body := by
  rcases begins_or_not .caret ts with ⟨l, body, rfl, token⟩ | no_caret
  · have next : Place.start.next? l = some (.element 0) := if_pos token
    exact ⟨[l], body, true, _, rfl, .present token, nofun, .inl rfl,
      by rw [Place.run_cons next, Place.run], Place.settled_element⟩
  · exact ⟨[], ts, false, _, rfl, .absent, fun _ => no_caret, .inr (.inr ⟨rfl, rfl⟩), rfl,
      fun l first => if_neg (no_caret l first)⟩

section Cases

variable {mark us rest : List Lexeme} {start : Bool} {bs : List Branch} {q q' : Place}

theorem pattern_of_settled (caret : Maybe .caret mark start)
    (no_more : start = false → ∀ l ∈ (us ++ rest).head?, l.token ≠ .caret)
    (body : Alternation atEnd us bs) (opens : q.Opens 0) (reached : q.run us = some q')
    (opens' : q'.Opens 0) (settled : q'.Settled 0 rest)
    (stop : ∀ l ∈ rest.head?, l.token.startsAtom = false ∧ l.token ≠ .pipe) :
    (∃ p, Whole atEnd (mark ++ (us ++ rest)) p) ∨
      ∃ s, pattern atEnd (mark ++ (us ++ rest)) = .refused s ∧ q'.fault atEnd rest = some s := by
  obtain ⟨t, -, first⟩ := @caret_reads atEnd (us ++ rest) _ _ caret no_more
  have both := first.followedBy (alternation_reads body opens reached settled stop) (by simp)
  cases rest with
  | nil =>
      have whole := Whole.intro caret body .absent
      exact .inl ⟨_, by simpa using whole⟩
  | cons l rest =>
      by_cases dollar : l.token = .dollar
      · cases rest with
        | nil =>
            have whole := Whole.intro caret body (.present dollar)
            exact .inl ⟨_, by simpa using whole⟩
        | cons x more =>
            have all := both.followedBy (@exactly_reads atEnd l (x :: more) _ dollar).optional (by simp)
            refine .inr ⟨.here atEnd .unexpected (x :: more), ?_, ?_⟩
            · exact spanned_refused (all.followedBy_refused rfl (by simp)) _
            · rw [Place.fault_cons (opens'.next? dollar rfl)]
              rfl
      · have no_dollar : optional (exactly atEnd .dollar) |>.Reads (l :: rest) none (l :: rest) :=
          optional_reads_none (exactly_refuses (forall_head_cons dollar)) (by simp)
        have all := both.followedBy no_dollar le_rfl
        refine .inr ⟨.here atEnd .unexpected (l :: rest), ?_, ?_⟩
        · exact spanned_refused (all.followedBy_refused rfl (by simp)) _
        · have stuck : q'.next? l = none := (settled l rfl).trans
            (Place.elementNext?_eq_none (stop l rfl).1 (stop l rfl).2 (fun _ => rfl)
              fun token => absurd token dollar)
          rw [Place.fault_refused stuck, opens'.refusal]

theorem pattern_of_blocked {t : Option Token}
    (first : (optional (exactly atEnd .caret)).Reads ts t (us ++ rest))
    (blocked : Blocked atEnd (branches atEnd (us ++ rest).length) (us ++ rest) bs q' rest) :
    ∃ s, pattern atEnd ts = .refused s ∧ q'.fault atEnd rest = some s := by
  obtain ⟨s, done, further, fault, opening⟩ := blocked
  rw [← alternation_eq] at done
  obtain ⟨alt, first, behind⟩ := first
  have kept : s.orFurther alt = s := behind.orFurther (by simp; omega)
  have no_dollar : ∀ l ∈ rest.head?, l.token ≠ .dollar := by
    intro l first dollar
    rcases opening l first with token | token | token <;> rw [token] at dollar <;> cases dollar
  have dollar_left : optional (exactly atEnd .dollar) rest =
      .done none rest (some (.here atEnd .unexpected rest)) := by
    simp only [optional, exactly_refuses no_dollar]
  have finished_refuses : finished rest = .refused (.here atEnd .unexpected rest) := by
    cases rest with
    | nil => cases further
    | cons l rest => rfl
  have beyond : (Setback.here atEnd .unexpected rest).orFurther (some s) = s :=
    if_pos (by simpa using further)
  refine ⟨s, spanned_refused ?_ _, fault⟩
  simp only [followedBy, first, done, dollar_left, finished_refuses, Setback.some_furthest,
    kept, beyond]

end Cases

/-- Tokens are `Grammar.Whole`, or `pattern` is refused for the `Place.fault` in them. -/
theorem pattern_cases (ts : List Lexeme) :
    (∃ p, Whole atEnd ts p) ∨
      ∃ s, pattern atEnd ts = .refused s ∧ Place.fault atEnd .start ts = some s := by
  obtain ⟨mark, body, start, q, rfl, caret, no_more, opens, marked, settled⟩ := exists_caret ts
  obtain ⟨us, rest, bs, q', rfl, alternation, opens', reached, stop⟩ :=
    @foreseen atEnd body _ _ opens settled
  rw [Place.fault_append marked, Place.fault_append reached]
  rcases stop with ⟨settled', stop⟩ | blocked
  · exact pattern_of_settled caret no_more alternation opens reached opens' settled' stop
  · obtain ⟨t, -, first⟩ := @caret_reads atEnd (us ++ rest) _ _ caret no_more
    exact .inr (pattern_of_blocked first blocked)

end Reader

/-- `Pattern.ofLexemes` answers what `Grammar.Whole` derives, and nothing else. -/
theorem Pattern.ofLexemes_eq_ok {p : Pattern} : ofLexemes atEnd ts = .ok p ↔ Whole atEnd ts p := by
  constructor
  · intro read
    rcases @Reader.pattern_cases atEnd ts with ⟨p', whole⟩ | ⟨s, refused, -⟩
    · obtain ⟨alt, done, -⟩ := Reader.pattern_reads whole
      rw [ofLexemes, done] at read
      cases read
      exact whole
    · rw [ofLexemes, refused] at read
      cases read
  · intro whole
    obtain ⟨alt, done, -⟩ := Reader.pattern_reads whole
    rw [ofLexemes, done]

/-- `Pattern.ofLexemes` is refused for the `Place.fault` in the tokens, and for nothing else. -/
theorem Pattern.ofLexemes_eq_error {r : Refusal} :
    ofLexemes atEnd ts = .error r ↔ ∃ s, Place.fault atEnd .start ts = some s ∧ s.refusal = r := by
  rcases @Reader.pattern_cases atEnd ts with ⟨p, whole⟩ | ⟨s, refused, fault⟩
  · simp [ofLexemes_eq_ok.mpr whole, Place.fault_whole whole]
  · simp [ofLexemes, refused, fault]

end PatternSampler
