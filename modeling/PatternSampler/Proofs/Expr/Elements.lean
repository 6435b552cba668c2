import Mathlib
import PatternSampler.Proofs.Expr.Quantifiers
import PatternSampler.Proofs.Expr.Sets

/-! # Reading elements, branches and alternations

Inside of itself the reader of alternations is only used behind a parenthesis, where fewer tokens are
left. So what it reads can be followed along the grammar, and it never goes on without end.
-/

namespace PatternSampler

open Setback (NotPast notPast_none notPast_here)

variable {atEnd : Span}

namespace Reader

open Grammar

variable {l : Lexeme} {ts rest : List Lexeme} {n : Nat}

/-- The reader of alternations, where fewer than `n` tokens are left. -/
def below (atEnd : Span) (n : Nat) : Reader (List Branch) := fun rest =>
  if rest.length < n then alternation atEnd rest else .endless

/-- The reader of the alternation that begins where `n` tokens are left. -/
def branches (atEnd : Span) (n : Nat) : Reader (List Branch) :=
  separatedBy (exactly atEnd .pipe) (many (element atEnd (below atEnd n)))

theorem alternation_eq (ts : List Lexeme) : alternation atEnd ts = branches atEnd ts.length ts := by
  rw [alternation, recursive]
  rfl

theorem below_eq (h : ts.length < n) : below atEnd n ts = branches atEnd ts.length ts := by
  rw [below, if_pos h, alternation_eq]

/-! ## Atoms -/

theorem since_one (l : Lexeme) (ts : List Lexeme) : Span.since atEnd (l :: ts) ts = l.span := by
  rw [← List.singleton_append, Span.since_append (List.cons_ne_nil l [])]
  rfl

section Atom

variable {alternation : Reader (List Branch)}

def group (atEnd : Span) (alternation : Reader (List Branch)) : Reader Expr :=
  spanned atEnd .group (between atEnd .openParen .closeParen alternation)

def single (atEnd : Span) (holds : Token → Bool) : Reader Expr :=
  spanned atEnd .token (satisfying atEnd holds)

theorem atom_eq : atom atEnd alternation =
    ((((group atEnd alternation).orElse (set atEnd)).orElse (single atEnd (· = .period))).orElse
      (single atEnd Token.isEscape)).orElse (single atEnd Token.isPlain) :=
  rfl

theorem group_refuses (h : ∀ l ∈ ts.head?, l.token ≠ .openParen) :
    group atEnd alternation ts = .refused (.here atEnd .unexpected ts) :=
  spanned_refused (between_refuses h) _

theorem set_refuses (h : ∀ l ∈ ts.head?, l.token ≠ .openBracket) :
    set atEnd ts = .refused (.here atEnd .unexpected ts) := by
  rw [set_eq, spanned_refused (between_refuses h)]

theorem single_refuses {holds : Token → Bool} (h : ∀ l ∈ ts.head?, holds l.token = false) :
    single atEnd holds ts = .refused (.here atEnd .unexpected ts) :=
  spanned_refused (satisfying_refuses h) _

theorem single_reads {holds : Token → Bool} (h : holds l.token) :
    (single atEnd holds).Reads (l :: ts) (.token l.token l.span) ts := by
  rw [← since_one l ts]
  exact (satisfying_reads h).spanned _

theorem atom_refuses (h : ∀ l ∈ ts.head?, l.token.startsAtom = false) :
    atom atEnd alternation ts = .refused (.here atEnd .unexpected ts) := by
  have no_atom {t : Token} (starts : t.startsAtom) : ∀ l ∈ ts.head?, l.token ≠ t := by
    intro l first token
    rw [← token, h l first] at starts
    cases starts
  have no_single (holds : Token → Bool) (starts : ∀ t, holds t → t.startsAtom) :
      ∀ l ∈ ts.head?, holds l.token = false := by
    intro l first
    by_contra held
    have := starts _ (by simpa using held)
    rw [h l first] at this
    cases this
  rw [atom_eq]
  have not_period := no_single (fun t => decide (t = .period)) fun t period => by
    rw [of_decide_eq_true period]
    rfl
  have not_escape := no_single Token.isEscape fun t escape => by
    simp [Token.startsAtom, Token.isAtom_eq, escape]
  have not_plain := no_single Token.isPlain fun t plain => by
    simp [Token.startsAtom, Token.isAtom_eq, plain]
  exact orElse_refused_here (orElse_refused_here (orElse_refused_here (orElse_refused_here
    (group_refuses (no_atom rfl)) (set_refuses (no_atom rfl))) (single_refuses not_period))
    (single_refuses not_escape)) (single_refuses not_plain)

theorem atom_refused_of_group {s : Setback} (h : l.token = .openParen)
    (refused : group atEnd alternation (l :: ts) = .refused s) (further : s.left ≤ ts.length) :
    atom atEnd alternation (l :: ts) = .refused s := by
  have further : s.left < (l :: ts).length := Nat.lt_succ_of_le further
  rw [atom_eq]
  exact orElse_refused_further (orElse_refused_further (orElse_refused_further
    (orElse_refused_further refused further
    (set_refuses (forall_head_cons (by rw [h]; nofun)))) further
    (single_refuses (forall_head_cons (by rw [h]; rfl)))) further
    (single_refuses (forall_head_cons (by rw [h]; rfl)))) further
    (single_refuses (forall_head_cons (by rw [h]; rfl)))

theorem atom_refused_of_set {s : Setback} (h : l.token = .openBracket)
    (refused : set atEnd (l :: ts) = .refused s) (further : s.left ≤ ts.length) :
    atom atEnd alternation (l :: ts) = .refused s := by
  have not_nearer : ¬(Setback.here atEnd .unexpected (l :: ts)).left < s.left := by
    rw [Setback.here_left, List.length_cons]
    omega
  have first : ((group atEnd alternation).orElse (set atEnd)) (l :: ts) = .refused s := by
    rw [refused_orElse (group_refuses (forall_head_cons (by rw [h]; nofun))) refused,
      Setback.orFurther, if_neg not_nearer]
  have further : s.left < (l :: ts).length := Nat.lt_succ_of_le further
  rw [atom_eq]
  exact orElse_refused_further (orElse_refused_further (orElse_refused_further first further
    (single_refuses (forall_head_cons (by rw [h]; rfl)))) further
    (single_refuses (forall_head_cons (by rw [h]; rfl)))) further
    (single_refuses (forall_head_cons (by rw [h]; rfl)))

theorem atom_reads_token (alone : l.token.isAtom) :
    (atom atEnd alternation).Reads (l :: ts) (.token l.token l.span) ts := by
  have no_group : group atEnd alternation (l :: ts) = .refused (.here atEnd .unexpected (l :: ts)) :=
    group_refuses (forall_head_cons fun h => by rw [h] at alone; cases alone)
  have no_set : set atEnd (l :: ts) = .refused (.here atEnd .unexpected (l :: ts)) :=
    set_refuses (forall_head_cons fun h => by rw [h] at alone; cases alone)
  have neither := orElse_refused_here no_group no_set
  rw [atom_eq]
  cases period : decide (l.token = .period) with
  | true => exact ((Reads.orElse_other neither (single_reads period)).orElse).orElse
  | false =>
      have neither := orElse_refused_here neither
        (@single_refuses atEnd (l :: ts) (· = .period) (forall_head_cons period))
      cases escape : l.token.isEscape with
      | true => exact (Reads.orElse_other neither (single_reads escape)).orElse
      | false =>
          have neither := orElse_refused_here neither
            (@single_refuses atEnd (l :: ts) Token.isEscape (forall_head_cons escape))
          have plain : l.token.isPlain := by
            simpa [Token.isAtom_eq, escape, of_decide_eq_false period] using alone
          exact .orElse_other neither (single_reads plain)

theorem atom_reads_set {opening closing : Lexeme} {mark : List Lexeme} {negated : Bool}
    (opens : opening.token = .openBracket) (content : Content mark ts negated)
    (closes : closing.token = .closeBracket) :
    (atom atEnd alternation).Reads (opening :: (mark ++ ts ++ closing :: rest))
      (.set negated (SetItem.ofLexemes ts) (opening.span.through closing.span)) rest := by
  rw [atom_eq]
  exact ((Reads.orElse_other (group_refuses (forall_head_cons (by rw [opens]; nofun)))
    (set_reads opens content closes)).orElse).orElse.orElse

theorem atom_reads_group {opening closing : Lexeme} {branches : List Branch}
    (opens : opening.token = .openParen)
    (inside : alternation.Reads (ts ++ closing :: rest) branches (closing :: rest))
    (closes : closing.token = .closeParen) :
    (atom atEnd alternation).Reads (opening :: (ts ++ closing :: rest))
      (.group branches (opening.span.through closing.span)) rest := by
  rw [atom_eq, ← Span.since_closed opening closing ts rest]
  exact ((between_reads opens inside (by simp; omega) closes).spanned _).orElse.orElse.orElse.orElse

end Atom

/-! ## Along the grammar -/

theorem element_refuses {alternation : Reader (List Branch)} {s : Setback}
    (h : atom atEnd alternation ts = .refused s) : element atEnd alternation ts = .refused s := by
  simp only [element, spanned, followedBy, h]

mutual

theorem atom_reads {ts : List Lexeme} {e : Expr} (h : Atom atEnd ts e) :
    ∀ {n : Nat} {rest : List Lexeme}, (ts ++ rest).length ≤ n →
      (atom atEnd (below atEnd n)).Reads (ts ++ rest) e rest := by
  intro n rest le
  cases h with
  | token alone => exact atom_reads_token alone
  | set opens content closes => simpa using atom_reads_set opens content closes
  | @group opening closing ts branches opens inside closes =>
      have shorter : (ts ++ closing :: rest).length < n := by
        simp at le ⊢
        omega
      have outer : Place.Opens 1 (.element 1) := .inl rfl
      obtain ⟨q', opens', reached⟩ := Place.run_alternation inside outer
      have settled : q'.Settled 1 (closing :: rest) :=
        forall_head_cons ((opens'.next? closes rfl).trans (by rw [closes]))
      have all := branches_reads inside outer le_rfl reached settled
        (forall_head_cons (by rw [closes]; rfl)) (forall_head_cons (by rw [closes]; nofun))
      have inner : (below atEnd n).Reads (ts ++ closing :: rest) branches (closing :: rest) := by
        rw [Reads, below_eq shorter]
        exact all
      simpa using atom_reads_group opens inner closes
termination_by (sizeOf e, 0)

theorem element_reads {ts : List Lexeme} {e : Expr} (h : Element atEnd ts e) :
    ∀ {n d : Nat} {q q' : Place} {rest : List Lexeme}, q.Opens d → (ts ++ rest).length ≤ n →
      q.run ts = some q' → q'.Settled d rest →
      (element atEnd (below atEnd n)).Reads (ts ++ rest) e rest := by
  match h with
  | .once atom =>
      intro n d q q' rest opens le reached settled
      cases (Place.run_atom atom opens).symm.trans reached
      have no_quantifier := @quantifier_refuses atEnd rest settled.not_startsQuantifier
      exact ((atom_reads atom le).followedBy (optional_reads_none no_quantifier (by simp))
        le_rfl).spanned elementOf
  | @Element.quantified _ ts us _ _ atom quantifier =>
      intro n d q q' rest opens le reached settled
      have span := @Span.since_append atEnd (ts ++ us) (Element.quantified atom quantifier).ne_nil rest
      rw [List.append_assoc] at le
      rw [← span, List.append_assoc]
      exact ((atom_reads atom le).followedBy (quantifier_reads quantifier rest).optional
        (by simp)).spanned elementOf
termination_by (sizeOf e, 1)

theorem elements_reads {ts : List Lexeme} {es : Branch} (h : Elements atEnd ts es) :
    ∀ {n d : Nat} {q q' : Place} {rest : List Lexeme}, q.Opens d → (ts ++ rest).length ≤ n →
      q.run ts = some q' → q'.Settled d rest → (∀ l ∈ rest.head?, l.token.startsAtom = false) →
      Reads (many (element atEnd (below atEnd n))) (ts ++ rest) es rest := by
  intro n d q q' rest opens le reached settled no_atom
  cases h with
  | nil => exact many_reads_nil (element_refuses (atom_refuses no_atom)) (by simp)
  | @cons us vs e es first others =>
      obtain ⟨q₁, opens₁, reached₁⟩ := Place.run_element first opens
      rw [Place.run_append reached₁] at reached
      have settled₁ := opens₁.settled_elements others reached settled
      have longer := List.length_pos_of_ne_nil first.ne_nil
      rw [List.append_assoc] at le ⊢
      have le' : (vs ++ rest).length ≤ n := by
        rw [List.length_append] at le
        omega
      exact (element_reads first opens le reached₁ settled₁).many (by simp; omega)
        (elements_reads others opens₁ le' reached settled no_atom) (by simp)
termination_by (sizeOf es, 0)

theorem branches_reads {ts : List Lexeme} {bs : List Branch} (h : Alternation atEnd ts bs) :
    ∀ {n d : Nat} {q q' : Place} {rest : List Lexeme}, q.Opens d → (ts ++ rest).length ≤ n →
      q.run ts = some q' → q'.Settled d rest → (∀ l ∈ rest.head?, l.token.startsAtom = false) →
      (∀ l ∈ rest.head?, l.token ≠ .pipe) → (branches atEnd n).Reads (ts ++ rest) bs rest := by
  intro n d q q' rest opens le reached settled no_atom no_pipe
  cases h with
  | one branch =>
      exact (elements_reads branch opens le reached settled no_atom).separatedBy_one
        (exactly_refuses no_pipe) (by simp)
  | @more us vs bar es others branch between alternation =>
      obtain ⟨q₁, opens₁, reached₁⟩ := Place.run_elements branch opens
      have settled₁ : q₁.Settled d (bar :: (vs ++ rest)) :=
        forall_head_cons ((opens₁.next? between rfl).trans (by rw [between]))
      have after : Place.Opens d (.element d) := .inl rfl
      rw [Place.run_append reached₁, Place.run_cons (opens₁.next? between rfl)] at reached
      have le₁ : (us ++ bar :: (vs ++ rest)).length ≤ n := by simpa using le
      have le₂ : (vs ++ rest).length ≤ n := by
        simp at le₁ ⊢
        omega
      have all := branches_reads alternation after le₂ reached settled no_atom no_pipe
      obtain ⟨fs, gs, rfl⟩ := alternation.exists_cons
      have first := elements_reads branch opens le₁ reached₁ settled₁
        (forall_head_cons (by rw [between]; rfl))
      rw [List.append_assoc, List.cons_append]
      exact first.separatedBy_more (exactly_reads between) (by simp; omega) (by simp) all (by simp)
termination_by (sizeOf bs, 0)

end

/-! ## Off the grammar

Where no more can be read there are two cases. Mostly the next token is left for others. But when it is a
brace, a bracket or a parenthesis that opens, it is too late for others: what comes behind it was refused
where it cannot stand, and this is the refusal that stays.
-/

/-- `r` reads `a` and leaves `rest`, which it was refused behind its first token. -/
def Blocked {α : Type} (atEnd : Span) (r : Reader α) (ts : List Lexeme) (a : α) (q : Place)
    (rest : List Lexeme) : Prop :=
  ∃ s, r ts = .done a rest (some s) ∧ s.left < rest.length ∧ q.fault atEnd rest = some s ∧
    ∀ l ∈ rest.head?, l.token = .openBrace ∨ l.token = .openBracket ∨ l.token = .openParen

/-- What is known of the reading of the alternation that begins with `ts`. -/
def Foreseen (atEnd : Span) (ts : List Lexeme) : Prop :=
  ∀ {d : Nat} {q : Place}, q.Opens d → q.Settled d ts →
    ∃ us rest bs q', ts = us ++ rest ∧ Alternation atEnd us bs ∧ q'.Opens d ∧ q.run us = some q' ∧
      (q'.Settled d rest ∧ (∀ l ∈ rest.head?, l.token.startsAtom = false ∧ l.token ≠ .pipe) ∨
        Blocked atEnd (branches atEnd ts.length) ts bs q' rest)

section Cases

variable {d : Nat} {q : Place}

theorem group_cases (smaller : ∀ us : List Lexeme, us.length < n → Foreseen atEnd us)
    (opens : q.Opens d) (le : (l :: ts).length ≤ n) (paren : l.token = .openParen) :
    (∃ us rest e, l :: ts = us ++ rest ∧ Atom atEnd us e) ∨
      ∃ s, atom atEnd (below atEnd n) (l :: ts) = .refused s ∧ s.left ≤ ts.length ∧
        q.fault atEnd (l :: ts) = some s := by
  have less : ts.length < n := le
  have inner : Place.Opens (d + 1) (.element (d + 1)) := .inl rfl
  have opened := @Place.fault_cons atEnd _ _ _ ts (opens.next? paren rfl)
  obtain ⟨us, rest, bs, q', rfl, alternation, opens', reached, stop⟩ :=
    smaller ts less inner Place.settled_element
  have followed : q.fault atEnd (l :: (us ++ rest)) = q'.fault atEnd rest := by
    rw [opened, Place.fault_append reached]
  rcases stop with ⟨settled, stop⟩ | ⟨s, done, further, fault, opening⟩
  · rcases begins_or_not .closeParen rest with ⟨closing, rest, rfl, closes⟩ | unclosed
    · exact .inl ⟨l :: (us ++ [closing]), rest, _, by simp, .group paren alternation closes⟩
    · have all := branches_reads alternation inner le_rfl reached settled (fun l first => (stop l first).1)
        fun l first => (stop l first).2
      have inside : (below atEnd n).Reads (us ++ rest) bs rest := by
        rw [Reads, below_eq less]
        exact all
      refine .inr ⟨.here atEnd .unexpected rest, ?_, by simp, ?_⟩
      · exact atom_refused_of_group paren (spanned_refused (between_reads_not_closed paren inside unclosed) _)
          (by simp)
      · have stuck : ∀ l ∈ rest.head?, q'.next? l = none := fun l first =>
          (settled l first).trans (Place.elementNext?_eq_none (stop l first).1 (stop l first).2
            (fun closes => absurd closes (unclosed l first)) fun _ => d.succ_ne_zero)
        rw [followed, Place.fault_stuck stuck opens'.isLast_succ, opens'.refusal]
  · have unclosed : ∀ l ∈ rest.head?, l.token ≠ .closeParen := by
      intro l first closes
      rcases opening l first with token | token | token <;> rw [token] at closes <;> cases closes
    rw [← below_eq less] at done
    have refused : between atEnd .openParen .closeParen (below atEnd n) (l :: (us ++ rest)) =
        .refused s := by
      rw [between_not_closed paren done unclosed, Setback.orFurther, if_pos (by simpa using further)]
    refine .inr ⟨s, atom_refused_of_group paren (spanned_refused refused _) ?_, ?_, ?_⟩
    · simp; omega
    · simp; omega
    · rw [followed, fault]

/-- The tokens begin with a `Grammar.Atom`, or with a token that no atom starts with, or `atom` is refused
    for the `Place.fault` in them. -/
theorem atom_cases (smaller : ∀ us : List Lexeme, us.length < n → Foreseen atEnd us)
    (opens : q.Opens d) (le : ts.length ≤ n) :
    (∃ us rest e, ts = us ++ rest ∧ Atom atEnd us e) ∨
      (∀ l ∈ ts.head?, l.token.startsAtom = false) ∨
      ∃ s, atom atEnd (below atEnd n) ts = .refused s ∧ s.left < ts.length ∧
        q.fault atEnd ts = some s ∧
        ∀ l ∈ ts.head?, l.token = .openBrace ∨ l.token = .openBracket ∨ l.token = .openParen := by
  cases ts with
  | nil => exact .inr (.inl (by simp))
  | cons l ts =>
      cases starts : l.token.startsAtom with
      | false => exact .inr (.inl (forall_head_cons starts))
      | true =>
          by_cases paren : l.token = .openParen
          · rcases group_cases smaller opens le paren with read | ⟨s, refused, within, fault⟩
            · exact .inl read
            · exact .inr (.inr ⟨s, refused, Nat.lt_succ_of_le within, fault,
                forall_head_cons (.inr (.inr paren))⟩)
          by_cases bracket : l.token = .openBracket
          · rcases @set_of_openBracket atEnd l bracket ts with
              ⟨mark, us, negated, closing, rest, rfl, content, closes⟩ | ⟨s, refused, within, fault⟩
            · exact .inl ⟨l :: (mark ++ us ++ [closing]), rest, _, by simp, .set bracket content closes⟩
            · have opened := @Place.fault_cons atEnd _ _ _ ts (opens.next? bracket rfl)
              exact .inr (.inr ⟨s, atom_refused_of_set bracket refused within, Nat.lt_succ_of_le within,
                opened.trans (fault d), forall_head_cons (.inr (.inl bracket))⟩)
          · have alone : l.token.isAtom := by
              simpa [Token.startsAtom, paren, bracket] using starts
            exact .inl ⟨[l], ts, _, rfl, .token alone⟩

/-- The counterpart of `atom_cases` for `Grammar.Element`. Behind the element the rest is `Settled`, or the
    element is `Blocked` at an opening brace. -/
theorem element_cases (smaller : ∀ us : List Lexeme, us.length < n → Foreseen atEnd us)
    (opens : q.Opens d) (le : ts.length ≤ n) :
    (∃ us rest e q', ts = us ++ rest ∧ Element atEnd us e ∧ q'.Opens d ∧ q.run us = some q' ∧
      (q'.Settled d rest ∨ (∀ l ∈ rest.head?, l.token = .openBrace) ∧
        Blocked atEnd (element atEnd (below atEnd n)) ts e q' rest)) ∨
      (∀ l ∈ ts.head?, l.token.startsAtom = false) ∨
      ∃ s, element atEnd (below atEnd n) ts = .refused s ∧ s.left < ts.length ∧
        q.fault atEnd ts = some s ∧
        ∀ l ∈ ts.head?, l.token = .openBrace ∨ l.token = .openBracket ∨ l.token = .openParen := by
  rcases atom_cases smaller opens le with ⟨us, rest, e, rfl, atom⟩ | no_atom | ⟨s, refused, hard⟩
  · left
    have reached := Place.run_atom atom opens
    have behind : Place.Opens d (.atom d) := .inr (.inl rfl)
    have ahead : Place.Opens d (.element d) := .inl rfl
    rcases @quantifier_cases atEnd rest with
      ⟨vs, rest, bs, rfl, quantifier⟩ | none_here | ⟨s, refused, within, fault, brace⟩
    · refine ⟨us ++ vs, rest, _, _, by simp, .quantified atom quantifier, ahead, ?_,
        .inl Place.settled_element⟩
      rw [Place.run_append reached, Place.run_quantifier quantifier]
    · exact ⟨us, rest, e, _, rfl, .once atom, behind, reached, .inl (Place.settled_atom none_here)⟩
    · obtain ⟨alt, done, notPast⟩ := atom_reads atom le
      have kept : (some s : Option Setback) = Setback.furthest (some s) alt := by
        rw [Setback.furthest, notPast.orFurther within.le]
      refine ⟨us, rest, e, _, rfl, .once atom, behind, reached, .inr ⟨brace, s, ?_, within, fault d,
        fun l first => .inl (brace l first)⟩⟩
      rw [kept]
      simp only [element, spanned, followedBy, done, optional, refused, elementOf]
  · exact .inr (.inl no_atom)
  · exact .inr (.inr ⟨s, element_refuses refused, hard⟩)

theorem many_blocked {α : Type} {r : Reader α} {a : α} {as : List α} {middle : List Lexeme}
    (h : r.Reads ts a middle) (shorter : middle.length < ts.length)
    (h' : Blocked atEnd (many r) middle as q rest) (shorter' : rest.length ≤ middle.length) :
    Blocked atEnd (many r) ts (a :: as) q rest := by
  obtain ⟨alt, done, behind⟩ := h
  obtain ⟨s, done', further, hard⟩ := h'
  have kept : s.orFurther alt = s := behind.orFurther (by omega)
  refine ⟨s, ?_, further, hard⟩
  rw [many]
  simp only [done, if_pos shorter, done', Setback.furthest, kept]

theorem elements_cases (smaller : ∀ us : List Lexeme, us.length < n → Foreseen atEnd us)
    {ts : List Lexeme} {q : Place} (opens : q.Opens d) (settled : q.Settled d ts)
    (le : ts.length ≤ n) :
    ∃ us rest es q', ts = us ++ rest ∧ Elements atEnd us es ∧ q'.Opens d ∧ q.run us = some q' ∧
      (q'.Settled d rest ∧ (∀ l ∈ rest.head?, l.token.startsAtom = false) ∨
        Blocked atEnd (many (element atEnd (below atEnd n))) ts es q' rest) := by
  induction length : ts.length using Nat.strong_induction_on generalizing ts q
  rename_i length ih
  rcases element_cases smaller opens le with
    ⟨us, rest, e, q₁, rfl, element, opens₁, reached, stop⟩ | no_atom | ⟨s, refused, further, hard⟩
  · have longer := List.length_pos_of_ne_nil element.ne_nil
    rw [List.length_append] at le
    rcases stop with settled₁ | ⟨brace, s, done, further, hard⟩
    · obtain ⟨vs, rest, es, q₂, rfl, elements, opens₂, reached', stop⟩ :=
        ih rest.length (by simp at length; omega) opens₁ settled₁ (by omega) rfl
      have first := element_reads element opens (by simpa using le) reached settled₁
      refine ⟨us ++ vs, rest, e :: es, q₂, by simp, .cons element elements, opens₂, ?_, ?_⟩
      · rw [Place.run_append reached, reached']
      · exact stop.imp_right fun blocked =>
          many_blocked first (by simp; omega) blocked (by simp)
    · -- No element begins with the brace, so it is the end of the branch.
      have refused := element_refuses (@atom_refuses atEnd rest (below atEnd n) fun l first => by
        rw [brace l first]; rfl)
      refine ⟨us, rest, [e], q₁, rfl, by simpa using Elements.cons element .nil, opens₁, reached,
        .inr ⟨s, ?_, further, hard⟩⟩
      have none_more : many (Reader.element atEnd (below atEnd n)) rest =
          .done [] rest (some (.here atEnd .unexpected rest)) := by
        rw [many, refused]
      rw [many]
      simp only [done, none_more, List.length_append, Setback.furthest, Setback.orFurther,
        Setback.here_left, if_pos further, if_pos (Nat.lt_add_of_pos_left longer)]
  · exact ⟨[], ts, [], q, rfl, .nil, opens, rfl, .inl ⟨settled, no_atom⟩⟩
  · exact ⟨[], ts, [], q, rfl, .nil, opens, rfl, .inr ⟨s, by rw [many, refused], further, hard⟩⟩

theorem separatedBy_blocked {α β : Type} {r : Reader α} {separator : Reader β} {a b : α} {as : List α}
    {x : β} {middle after : List Lexeme} (h : r.Reads ts a middle) (h' : separator.Reads middle x after)
    (shorter : after.length < ts.length) (shorter' : after.length ≤ middle.length)
    (h'' : Blocked atEnd (separatedBy separator r) after (b :: as) q rest)
    (shorter'' : rest.length ≤ after.length) :
    Blocked atEnd (separatedBy separator r) ts (a :: b :: as) q rest := by
  obtain ⟨alt, done, behind⟩ := h
  obtain ⟨alt', done', behind'⟩ := h'
  obtain ⟨s, done'', further, hard⟩ := h''
  have kept : s.orFurther (Setback.furthest alt' alt) = s :=
    ((behind.mono shorter').furthest behind').orFurther (by omega)
  refine ⟨s, ?_, further, hard⟩
  rw [separatedBy]
  simp only [done, done', if_pos shorter, done'', Setback.some_furthest, kept]

theorem branches_cases (smaller : ∀ us : List Lexeme, us.length < n → Foreseen atEnd us)
    {ts : List Lexeme} {q : Place} (opens : q.Opens d) (settled : q.Settled d ts)
    (le : ts.length ≤ n) :
    ∃ us rest bs q', ts = us ++ rest ∧ Alternation atEnd us bs ∧ q'.Opens d ∧ q.run us = some q' ∧
      (q'.Settled d rest ∧ (∀ l ∈ rest.head?, l.token.startsAtom = false ∧ l.token ≠ .pipe) ∨
        Blocked atEnd (branches atEnd n) ts bs q' rest) := by
  induction length : ts.length using Nat.strong_induction_on generalizing ts q
  rename_i length ih
  obtain ⟨us, rest, es, q₁, rfl, elements, opens₁, reached, stop⟩ :=
    elements_cases smaller opens settled le
  rcases stop with ⟨settled₁, no_atom⟩ | ⟨s, done, further, fault, opening⟩
  · rcases begins_or_not .pipe rest with ⟨bar, rest, rfl, between⟩ | no_pipe
    · have after : Place.Opens d (.element d) := .inl rfl
      have next := opens₁.next? between rfl
      have first := elements_reads elements opens le reached settled₁ no_atom
      simp only [List.length_append, List.length_cons] at le length
      obtain ⟨vs, rest, bs, q₂, rfl, alternation, opens₂, reached', stop⟩ :=
        ih rest.length (by omega) after Place.settled_element (by omega) rfl
      refine ⟨us ++ bar :: vs, rest, es :: bs, q₂, by simp, .more elements between alternation,
        opens₂, ?_, stop.imp_right ?_⟩
      · rw [Place.run_append reached, Place.run_cons next]
        exact reached'
      · intro blocked
        obtain ⟨fs, gs, rfl⟩ := alternation.exists_cons
        exact separatedBy_blocked first (exactly_reads between) (by simp; omega) (by simp) blocked
          (by simp)
    · exact ⟨us, rest, [es], q₁, rfl, .one elements, opens₁, reached,
        .inl ⟨settled₁, fun l first => ⟨no_atom l first, no_pipe l first⟩⟩⟩
  · have no_pipe : ∀ l ∈ rest.head?, l.token ≠ .pipe := by
      intro l first pipe
      rcases opening l first with token | token | token <;> rw [token] at pipe <;> cases pipe
    refine ⟨us, rest, [es], q₁, rfl, .one elements, opens₁, reached, .inr ⟨s, ?_, further, fault, opening⟩⟩
    rw [branches, separatedBy]
    simp only [done, exactly_refuses no_pipe, Setback.furthest, Setback.orFurther, Setback.here_left,
      if_pos further]

theorem foreseen (ts : List Lexeme) : Foreseen atEnd ts := by
  induction length : ts.length using Nat.strong_induction_on generalizing ts
  rename_i length ih
  subst length
  exact fun opens settled => branches_cases (fun us less => ih us.length less us rfl) opens settled le_rfl

end Cases

end Reader

end PatternSampler
