import Mathlib
import PatternSampler.Proofs.Expr.Grammar

/-! # Places in a pattern

A pattern can be followed token by token without ever going back: how far one has come is a place, and
the next token leads to the next place or cannot stand there. The digits of a bound are kept until it is
known how many there are, as only then it can be too large.

Whatever the grammar derives leads from one place to another. So a pattern never meets a token that
cannot stand where it stands.
-/

namespace PatternSampler

def Setback.here (atEnd : Span) (problem : Token → GrammarProblem) : List Lexeme → Setback
  | [] => ⟨0, .unexpectedEnd, atEnd⟩
  | next :: ts => ⟨ts.length + 1, problem next.token, next.span⟩

/-- The refusal of a bound that `rest` follows. -/
def Setback.tooLarge (atEnd : Span) (digits rest : List Lexeme) : Setback :=
  ⟨rest.length, .boundTooLarge (String.ofList (digits.flatMap (·.token.spelling))), .since atEnd digits []⟩

@[simp] theorem Setback.here_left (atEnd : Span) (problem : Token → GrammarProblem) (ts : List Lexeme) :
    (here atEnd problem ts).left = ts.length := by
  cases ts <;> rfl

/-- How far a pattern has been read. `depth` is the number of groups that are open. -/
inductive Place where
  | start
  /-- An element can begin, and no quantifier. -/
  | element (depth : Nat)
  | atom (depth : Nat)
  | set (depth : Nat)
  | mark (depth : Nat)
  | items (depth : Nat)
  | bounds (depth : Nat)
  | minimum (depth : Nat) (digits : List Lexeme)
  | comma (depth : Nat)
  | maximum (depth : Nat) (digits : List Lexeme)
  /-- The pattern cannot go on after its anchor. -/
  | anchored
  deriving Repr, DecidableEq

namespace Place

def Excessive (digits : List Lexeme) : Prop :=
  Bounds.limit < Grammar.numeral (digits.map (·.token))

instance (digits : List Lexeme) : Decidable (Excessive digits) := inferInstanceAs (Decidable (_ < _))

/-- The place after a token where an element can begin. -/
def elementNext? (depth : Nat) (t : Token) : Option Place :=
  if t.isAtom then some (.atom depth)
  else
    match t, depth with
    | .openBracket, _ => some (.set depth)
    | .openParen, _ => some (.element (depth + 1))
    | .pipe, _ => some (.element depth)
    | .closeParen, outer + 1 => some (.atom outer)
    | .dollar, 0 => some .anchored
    | _, _ => none

/-- The place after one more token; none if it cannot stand here. -/
def next? : Place → Lexeme → Option Place
  | start, l => if l.token = .caret then some (.element 0) else elementNext? 0 l.token
  | element depth, l => elementNext? depth l.token
  | atom depth, l =>
    match l.token with
    | .star | .plus | .question => some (.element depth)
    | .openBrace => some (.bounds depth)
    | t => elementNext? depth t
  | set depth, l =>
    if l.token = .caret then some (.mark depth)
    else if l.token = .closeBracket then none else some (.items depth)
  | mark depth, l => if l.token = .closeBracket then none else some (.items depth)
  | items depth, l => if l.token = .closeBracket then some (.atom depth) else some (.items depth)
  | bounds depth, l => if l.token.isDigit then some (.minimum depth [l]) else none
  | minimum depth digits, l =>
    if l.token.isDigit then some (.minimum depth (digits ++ [l]))
    else if Excessive digits then none
    else if l.token = .comma then some (.comma depth)
    else if l.token = .closeBrace then some (.element depth) else none
  | comma depth, l =>
    if l.token.isDigit then some (.maximum depth [l])
    else if l.token = .closeBrace then some (.element depth) else none
  | maximum depth digits, l =>
    if l.token.isDigit then some (.maximum depth (digits ++ [l]))
    else if Excessive digits then none
    else if l.token = .closeBrace then some (.element depth) else none
  | anchored, _ => none

def isLast : Place → Bool
  | start | element 0 | atom 0 | anchored => true
  | _ => false

def refusal (atEnd : Span) (rest : List Lexeme) : Place → Setback
  | bounds _ => .here atEnd .notADigit rest
  | minimum _ digits | maximum _ digits =>
    if Excessive digits then .tooLarge atEnd digits rest else .here atEnd .unexpected rest
  | _ => .here atEnd .unexpected rest

/-- The first refusal on the way from a place to the end; none if there is none. -/
def fault (atEnd : Span) : Place → List Lexeme → Option Setback
  | q, [] => if q.isLast then none else some (q.refusal atEnd [])
  | q, l :: ts =>
    match q.next? l with
    | some q' => fault atEnd q' ts
    | none => some (q.refusal atEnd (l :: ts))

def run : Place → List Lexeme → Option Place
  | q, [] => some q
  | q, l :: ts => (q.next? l).bind fun q' => run q' ts

variable {atEnd : Span} {q q' : Place} {d : Nat} {l : Lexeme} {ts rest : List Lexeme}

theorem fault_cons (h : q.next? l = some q') : fault atEnd q (l :: ts) = fault atEnd q' ts := by
  simp only [fault, h]

theorem fault_refused (h : q.next? l = none) :
    fault atEnd q (l :: ts) = some (q.refusal atEnd (l :: ts)) := by
  simp only [fault, h]

theorem fault_stuck (h : ∀ l ∈ ts.head?, q.next? l = none) (not_last : q.isLast = false) :
    fault atEnd q ts = some (q.refusal atEnd ts) := by
  cases ts with
  | nil => rw [fault, not_last, if_neg Bool.false_ne_true]
  | cons l ts => exact fault_refused (h l rfl)

theorem fault_append (h : run q ts = some q') : fault atEnd q (ts ++ rest) = fault atEnd q' rest := by
  induction ts generalizing q with
  | nil =>
      cases h
      rfl
  | cons l ts ih =>
      obtain ⟨next, step, rest⟩ := Option.bind_eq_some_iff.mp h
      rw [List.cons_append, fault_cons step]
      exact ih rest

theorem run_append {us : List Lexeme} (h : run q ts = some q') : run q (ts ++ us) = run q' us := by
  induction ts generalizing q with
  | nil =>
      cases h
      rfl
  | cons l ts ih =>
      obtain ⟨next, step, rest⟩ := Option.bind_eq_some_iff.mp h
      rw [List.cons_append, run, step]
      exact ih rest

/-- `Place.fault` is the `refusal` at the first token that `next?` does not take. -/
theorem exists_of_fault_eq_some {s : Setback} (h : fault atEnd q ts = some s) :
    ∃ before rest q', ts = before ++ rest ∧ run q before = some q' ∧ s = q'.refusal atEnd rest ∧
      ∀ l ∈ rest.head?, q'.next? l = none := by
  induction ts generalizing q with
  | nil =>
      simp only [fault] at h
      split at h
      · cases h
      · exact ⟨[], [], q, rfl, rfl, (Option.some.inj h).symm, nofun⟩
  | cons l ts ih =>
      cases step : q.next? l with
      | none =>
          rw [fault_refused step] at h
          exact ⟨[], l :: ts, q, rfl, rfl, (Option.some.inj h).symm, by simpa using step⟩
      | some next =>
          rw [fault_cons step] at h
          obtain ⟨before, rest, q', rfl, reached, refused, stuck⟩ := ih h
          refine ⟨l :: before, rest, q', rfl, ?_, refused, stuck⟩
          rw [run, step, Option.bind_some, reached]

/-! ## The way through what the grammar derives -/

theorem elementNext?_eq_none {t : Token} (no_atom : t.startsAtom = false) (no_pipe : t ≠ .pipe)
    (open' : t = .closeParen → d = 0) (inner : t = .dollar → d ≠ 0) : elementNext? d t = none := by
  cases t with
  | pipe => exact absurd rfl no_pipe
  | closeParen =>
      cases open' rfl
      rfl
  | dollar =>
      cases d with
      | zero => exact absurd rfl (inner rfl)
      | succ d => rfl
  | caret | openBrace | star | plus | question => rfl
  | period | openParen | openBracket | closeBracket | closeBrace | dash | comma | escape c | char c =>
      cases no_atom

theorem next?_atom (h : l.token.startsQuantifier = false) : next? (.atom d) l = elementNext? d l.token := by
  simp only [next?]
  split <;> first | rfl | rename_i token; rw [token] at h; cases h

def Opens (d : Nat) (q : Place) : Prop := q = .element d ∨ q = .atom d ∨ q = .start ∧ d = 0

theorem Opens.next? (opens : q.Opens d) {t : Token} (token : l.token = t)
    (steady : t.isSteady) : q.next? l = elementNext? d t := by
  subst token
  obtain ⟨not_quantifier, not_caret⟩ : l.token.startsQuantifier = false ∧ l.token ≠ .caret := by
    simpa [Token.isSteady] using steady
  rcases opens with rfl | rfl | ⟨rfl, rfl⟩
  · rfl
  · exact next?_atom not_quantifier
  · exact if_neg not_caret

theorem Opens.refusal (opens : q.Opens d) : q.refusal atEnd ts = .here atEnd .unexpected ts := by
  rcases opens with rfl | rfl | ⟨rfl, -⟩ <;> rfl

theorem Opens.isLast_succ (opens : q.Opens (d + 1)) : q.isLast = false := by
  rcases opens with rfl | rfl | ⟨-, zero⟩
  · rfl
  · rfl
  · cases zero

/-- What comes next can only be taken as it is where an element begins, not by an anchor or a
    quantifier. -/
def Settled (d : Nat) (q : Place) (ts : List Lexeme) : Prop :=
  ∀ l ∈ ts.head?, q.next? l = elementNext? d l.token

theorem settled_element : Settled d (.element d) ts := fun _ _ => rfl

theorem settled_atom (h : ∀ l ∈ ts.head?, l.token.startsQuantifier = false) :
    Settled d (.atom d) ts :=
  fun l first => next?_atom (h l first)

theorem Settled.not_startsQuantifier (settled : Settled d (.atom d) ts) :
    ∀ l ∈ ts.head?, l.token.startsQuantifier = false := by
  intro l first
  have step := settled l first
  cases quantifier : l.token.startsQuantifier with
  | false => rfl
  | true =>
      cases token : l.token <;> rw [token] at quantifier <;> cases quantifier <;>
        simp only [Place.next?, token] at step <;> cases step

theorem elementNext?_of_isAtom {t : Token} (h : t.isAtom) : elementNext? d t = some (.atom d) :=
  if_pos h

section Digits

variable {digits ds : List Lexeme}

theorem run_more_digits {kept : List Lexeme → Place}
    (more : ∀ {digits l}, l.token.isDigit → (kept digits).next? l = some (kept (digits ++ [l])))
    (h : ∀ l ∈ ds, l.token.isDigit) : run (kept digits) ds = some (kept (digits ++ ds)) := by
  induction ds generalizing digits with
  | nil => rw [List.append_nil, run]
  | cons l ds ih =>
      obtain ⟨first, others⟩ := List.forall_mem_cons.mp h
      rw [run, more first, Option.bind_some, ih others, List.append_assoc, List.singleton_append]

theorem run_digits {kept : List Lexeme → Place}
    (one : ∀ {l}, l.token.isDigit → q.next? l = some (kept [l]))
    (more : ∀ {digits l}, l.token.isDigit → (kept digits).next? l = some (kept (digits ++ [l])))
    (nonempty : ds ≠ []) (h : ∀ l ∈ ds, l.token.isDigit) : run q ds = some (kept ds) := by
  cases ds with
  | nil => contradiction
  | cons l ds =>
      obtain ⟨first, others⟩ := List.forall_mem_cons.mp h
      rw [run, one first, Option.bind_some, run_more_digits more others, List.singleton_append]

theorem run_bounds (nonempty : ds ≠ []) (h : ∀ l ∈ ds, l.token.isDigit) :
    run (.bounds d) ds = some (.minimum d ds) :=
  run_digits (fun digit => if_pos digit) (fun digit => if_pos digit) nonempty h

theorem run_comma (nonempty : ds ≠ []) (h : ∀ l ∈ ds, l.token.isDigit) :
    run (.comma d) ds = some (.maximum d ds) :=
  run_digits (fun digit => if_pos digit) (fun digit => if_pos digit) nonempty h

end Digits

theorem not_excessive {ds : List Lexeme} {n : Nat} (number : Grammar.Number ds n) : ¬Excessive ds := by
  rw [Excessive, number.value]
  exact number.le_limit.not_gt

theorem number_of_not_excessive {ds : List Lexeme} (nonempty : ds ≠ [])
    (digits : ∀ l ∈ ds, l.token.isDigit) (small : ¬Excessive ds) :
    Grammar.Number ds (Grammar.numeral (ds.map (·.token))) :=
  ⟨nonempty, digits, rfl, Nat.not_lt.mp small⟩

theorem run_items (h : ∀ l ∈ ts, l.token ≠ .closeBracket) : run (.items d) ts = some (.items d) := by
  induction ts with
  | nil => rfl
  | cons l ts ih =>
      obtain ⟨first, others⟩ := List.forall_mem_cons.mp h
      rw [run, next?, if_neg first, Option.bind_some, ih others]

theorem next?_openBrace (h : l.token = .openBrace) : next? (.atom d) l = some (.bounds d) := by
  simp only [next?, h]

theorem next?_comma {ds : List Lexeme} (small : ¬Excessive ds) (h : l.token = .comma) :
    next? (.minimum d ds) l = some (.comma d) := by
  have not_digit : l.token.isDigit = false := by rw [h]; rfl
  simp only [next?, not_digit, if_neg small, if_pos h, Bool.false_eq_true, if_false]

theorem next?_closeBrace {ds : List Lexeme} (small : ¬Excessive ds) (h : l.token = .closeBrace)
    (q_eq : q = .minimum d ds ∨ q = .comma d ∨ q = .maximum d ds) :
    next? q l = some (.element d) := by
  have not_digit : l.token.isDigit = false := by rw [h]; rfl
  have not_comma : l.token ≠ .comma := by rw [h]; nofun
  rcases q_eq with rfl | rfl | rfl
  · simp only [next?, not_digit, if_neg small, if_neg not_comma, if_pos h, Bool.false_eq_true, if_false]
  · simp only [next?, not_digit, if_pos h, Bool.false_eq_true, if_false]
  · simp only [next?, not_digit, if_neg small, if_pos h, Bool.false_eq_true, if_false]

theorem run_cons {next : Place} (h : q.next? l = some next) : run q (l :: ts) = run next ts := by
  rw [run, h, Option.bind_some]

theorem run_quantifier {bounds : Bounds} (quantifier : Grammar.Quantifier ts bounds) :
    run (.atom d) ts = some (.element d) := by
  cases quantifier with
  | star token | plus token | question token => simp only [run, next?, token, Option.bind_some]
  | exactly opens number closes =>
      rw [run_cons (next?_openBrace opens), run_append (run_bounds number.nonempty number.digits),
        run_cons (next?_closeBrace (not_excessive number) closes (.inl rfl)), run]
  | atLeast opens number between closes =>
      rw [run_cons (next?_openBrace opens), run_append (run_bounds number.nonempty number.digits),
        run_cons (next?_comma (not_excessive number) between),
        run_cons (next?_closeBrace (not_excessive number) closes (.inr (.inl rfl))), run]
  | range opens number between number' closes =>
      rw [run_cons (next?_openBrace opens), run_append (run_bounds number.nonempty number.digits),
        run_cons (next?_comma (not_excessive number) between),
        run_append (run_comma number'.nonempty number'.digits),
        run_cons (next?_closeBrace (not_excessive number') closes (.inr (.inr rfl))), run]

theorem run_content {mark : List Lexeme} {negated : Bool}
    (content : Grammar.Content mark ts negated) : run (.set d) (mark ++ ts) = some (.items d) := by
  obtain ⟨first, nonempty, inside, marked⟩ := content
  cases ts with
  | nil => contradiction
  | cons l ts =>
      obtain ⟨within, others⟩ := List.forall_mem_cons.mp inside
      cases first with
      | absent =>
          have item : next? (.set d) l = some (.items d) := by
            simp only [next?, if_neg (marked rfl l rfl), if_neg within]
          rw [List.nil_append, run_cons item, run_items others]
      | @present caret token =>
          have negation : next? (.set d) caret = some (.mark d) := by simp only [next?, if_pos token]
          have item : next? (.mark d) l = some (.items d) := by simp only [next?, if_neg within]
          rw [List.singleton_append, run_cons negation, run_cons item, run_items others]

mutual

theorem run_atom {ts : List Lexeme} {e : Expr} (atom : Grammar.Atom atEnd ts e) :
    ∀ {d : Nat} {q : Place}, q.Opens d → run q ts = some (.atom d) := by
  intro d q opens
  cases atom with
  | @token l alone =>
      have steady := Token.isSteady_of_startsAtom (t := l.token) (by simp [Token.startsAtom, alone])
      rw [run_cons ((opens.next? rfl steady).trans (elementNext?_of_isAtom alone)), run]
  | @set opening closing mark ts negated bracket content closes =>
      have closed : next? (.items d) closing = some (.atom d) := by simp only [next?, if_pos closes]
      rw [run_cons (opens.next? bracket rfl), run_append (run_content content),
        run_cons closed, run]
  | @group opening closing ts branches paren inside closes =>
      have below : Opens (d + 1) (.element (d + 1)) := .inl rfl
      obtain ⟨q', opens', inner⟩ := run_alternation inside below
      rw [run_cons (opens.next? paren rfl), run_append inner,
        run_cons (opens'.next? closes rfl), run]

theorem run_element {ts : List Lexeme} {e : Expr} (element : Grammar.Element atEnd ts e) :
    ∀ {d : Nat} {q : Place}, q.Opens d → ∃ q' : Place, q'.Opens d ∧ run q ts = some q' := by
  match element with
  | .once unit =>
      intro d q opens
      exact ⟨.atom d, .inr (.inl rfl), run_atom unit opens⟩
  | .quantified unit quantifier =>
      intro d q opens
      refine ⟨.element d, .inl rfl, ?_⟩
      rw [run_append (run_atom unit opens), run_quantifier quantifier]

theorem run_elements {ts : List Lexeme} {es : Branch} (elements : Grammar.Elements atEnd ts es) :
    ∀ {d : Nat} {q : Place}, q.Opens d → ∃ q' : Place, q'.Opens d ∧ run q ts = some q' := by
  intro d q opens
  cases elements with
  | nil => exact ⟨q, opens, rfl⟩
  | cons first others =>
      obtain ⟨q', opens', one⟩ := run_element first opens
      obtain ⟨q'', opens'', all⟩ := run_elements others opens'
      exact ⟨q'', opens'', by rw [run_append one, all]⟩

theorem run_alternation {ts : List Lexeme} {branches : List Branch}
    (alternation : Grammar.Alternation atEnd ts branches) :
    ∀ {d : Nat} {q : Place}, q.Opens d → ∃ q' : Place, q'.Opens d ∧ run q ts = some q' := by
  intro d q opens
  cases alternation with
  | one branch => exact run_elements branch opens
  | @more ts us bar es branches branch between others =>
      have below : Opens d (.element d) := .inl rfl
      obtain ⟨q', opens', first⟩ := run_elements branch opens
      obtain ⟨q'', opens'', all⟩ := run_alternation others below
      refine ⟨q'', opens'', ?_⟩
      rw [run_append first, run_cons (opens'.next? between rfl), all]

end

theorem Opens.settled_elements (opens : q.Opens d) {es : Branch}
    (elements : Grammar.Elements atEnd ts es) (reached : run q ts = some q')
    (settled : q'.Settled d rest) : q.Settled d (ts ++ rest) := by
  cases elements with
  | nil =>
      cases reached
      exact settled
  | cons first others =>
      obtain ⟨l, us, rfl, starts⟩ := first.exists_cons
      rintro l' ⟨⟩
      exact opens.next? rfl (Token.isSteady_of_startsAtom starts)

theorem run_caret {start : Bool} (caret : Grammar.Maybe .caret ts start) :
    ∃ q : Place, q.Opens 0 ∧ run .start ts = some q := by
  cases caret with
  | absent => exact ⟨.start, .inr (.inr ⟨rfl, rfl⟩), rfl⟩
  | @present l token =>
      have next : Place.start.next? l = some (.element 0) := if_pos token
      exact ⟨.element 0, .inl rfl, by rw [run_cons next, run]⟩

/-- There is no `Place.fault` in `Grammar.Whole` tokens. -/
theorem fault_whole {p : Pattern} (whole : Grammar.Whole atEnd ts p) : fault atEnd .start ts = none := by
  cases whole with
  | @intro before ts after start stop branches caret body dollar =>
      obtain ⟨q₀, opens₀, first⟩ := run_caret caret
      obtain ⟨q₁, opens₁, middle⟩ := run_alternation body opens₀
      rw [List.append_assoc, fault_append first, fault_append middle]
      cases dollar with
      | absent => rcases opens₁ with rfl | rfl | ⟨rfl, -⟩ <;> rfl
      | present token =>
          rw [fault_cons (opens₁.next? token rfl)]
          rfl

/-! ## The way from a place to an end -/

theorem exists_end_of_opens (opens : q.Opens d) : ∃ more, fault atEnd q more = none := by
  induction d generalizing q with
  | zero =>
      refine ⟨[], ?_⟩
      rcases opens with rfl | rfl | ⟨rfl, -⟩ <;> rfl
  | succ d ih =>
      have next : q.next? ⟨.closeParen, atEnd⟩ = some (.atom d) := opens.next? rfl rfl
      have below : Opens d (.atom d) := .inr (.inl rfl)
      obtain ⟨more, done⟩ := ih below
      exact ⟨⟨.closeParen, atEnd⟩ :: more, by rw [fault_cons next, done]⟩

/-- Every place has tokens that lead to an end without `fault`, but within a bound that is `Excessive`
    already. -/
theorem exists_end (small : ∀ d ds, q = .minimum d ds ∨ q = .maximum d ds → ¬Excessive ds) :
    ∃ more, fault atEnd q more = none := by
  have from_next {q q' : Place} (l : Lexeme) (next : q.next? l = some q') :
      (∃ more, fault atEnd q' more = none) → ∃ more, fault atEnd q more = none :=
    fun ⟨more, done⟩ => ⟨l :: more, by rw [fault_cons next, done]⟩
  have from_element (d : Nat) : ∃ more, fault atEnd (.element d) more = none :=
    exists_end_of_opens (.inl rfl)
  have from_atom (d : Nat) : ∃ more, fault atEnd (.atom d) more = none :=
    exists_end_of_opens (.inr (.inl rfl))
  have from_items (d : Nat) : ∃ more, fault atEnd (.items d) more = none :=
    from_next ⟨.closeBracket, atEnd⟩ rfl (from_atom d)
  have from_minimum (d : Nat) (ds : List Lexeme) (small : ¬Excessive ds) :
      ∃ more, fault atEnd (.minimum d ds) more = none :=
    from_next ⟨.closeBrace, atEnd⟩ (next?_closeBrace small rfl (.inl rfl)) (from_element d)
  cases q with
  | start => exact ⟨[], rfl⟩
  | element d => exact from_element d
  | atom d => exact from_atom d
  | set d | mark d => exact from_next ⟨.comma, atEnd⟩ rfl (from_items d)
  | items d => exact from_items d
  | bounds d =>
      have zero : ¬Excessive [⟨.char '0', atEnd⟩] :=
        show ¬Bounds.limit < Grammar.numeral [.char '0'] by decide
      exact from_next ⟨.char '0', atEnd⟩ rfl (from_minimum d _ zero)
  | minimum d ds => exact from_minimum d ds (small d ds (.inl rfl))
  | comma d => exact from_next ⟨.closeBrace, atEnd⟩ rfl (from_element d)
  | maximum d ds =>
      exact from_next ⟨.closeBrace, atEnd⟩
        (next?_closeBrace (small d ds (.inr rfl)) rfl (.inr (.inr rfl))) (from_element d)
  | anchored => exact ⟨[], rfl⟩

end Place

end PatternSampler
