import Mathlib
import PatternSampler.Expr.Reader

/-! # The grammar of patterns

Which tokens a number, a quantifier, an atom and so on up to a whole pattern can be written with, and
which expression they stand for. Nothing is said here about how tokens are read.

The tokens inside of a set are anything but a closing bracket. Only how they are cut into items needs a
rule, for a dash can be an item or stand between the boundaries of a range.
-/

namespace PatternSampler

namespace Token

/-- One of the ten ASCII digits, as a plain character. -/
def isDigit : Token → Bool
  | char c => c.isDigit
  | _ => false

def isAtom : Token → Bool
  | period | escape _ | char _ | dash | comma | closeBracket | closeBrace => true
  | _ => false

def startsAtom (t : Token) : Bool := t = .openParen || t = .openBracket || t.isAtom

def startsQuantifier : Token → Bool
  | star | plus | question | openBrace => true
  | _ => false

/-- Whether the token is taken in the same way wherever an element can begin. A caret is not, for it may
    be an anchor, nor is the beginning of a quantifier. -/
def isSteady (t : Token) : Bool := !t.startsQuantifier && t != .caret

theorem isSteady_of_startsAtom {t : Token} (h : t.startsAtom) : t.isSteady := by
  cases t <;> first | exact absurd h (by decide) | rfl

theorem isAtom_eq (t : Token) : t.isAtom = (t = .period || t.isEscape || t.isPlain) := by
  cases t <;> rfl

theorem digit?_char (c : Char) :
    (char c).digit? = if c.isDigit then some (c.toNat - '0'.toNat) else none := by
  have digit : c.isDigit ↔ '0' ≤ c ∧ c ≤ '9' := by
    simp only [Char.isDigit, Bool.and_eq_true, decide_eq_true_eq]
    rfl
  simp only [digit?, digit]

theorem isSome_digit? (t : Token) : t.digit?.isSome = t.isDigit := by
  cases t with
  | char c =>
      rw [digit?_char, isDigit]
      cases c.isDigit <;> rfl
  | _ => rfl

end Token

/-- The items of a set, cut from left to right: a token with a dash and one more token behind it is the
    first boundary of a range, and any other token stands for itself. -/
def SetItem.ofLexemes : List Lexeme → List SetItem
  | [] => []
  | first :: dash :: last :: ts =>
    if dash.token = .dash then
      .range first.token last.token (first.span.through last.span) :: ofLexemes ts
    else .single first.token :: ofLexemes (dash :: last :: ts)
  | first :: ts => .single first.token :: ofLexemes ts

namespace SetItem

def tokens : SetItem → List Token
  | single t => [t]
  | range first last _ => [first, last]

theorem ofLexemes_ne_nil {ts : List Lexeme} (nonempty : ts ≠ []) : ofLexemes ts ≠ [] := by
  fun_cases ofLexemes ts with
  | case1 => exact absurd rfl nonempty
  | case2 | case3 | case4 => simp

theorem exists_of_mem_tokens {ts : List Lexeme} {item : SetItem} (member : item ∈ ofLexemes ts)
    {t : Token} (inside : t ∈ item.tokens) : ∃ l ∈ ts, l.token = t := by
  fun_induction ofLexemes ts with
  | case1 => simp at member
  | case2 first dash last ts _ ih =>
      rcases List.mem_cons.mp member with rfl | later
      · rcases List.mem_cons.mp inside with rfl | boundary
        · exact ⟨first, by simp, rfl⟩
        · exact ⟨last, by simp, (List.mem_singleton.mp boundary).symm⟩
      · obtain ⟨l, here, same⟩ := ih later
        exact ⟨l, by simp [here], same⟩
  | case3 first dash last ts _ ih | case4 first ts _ ih =>
      rcases List.mem_cons.mp member with rfl | later
      · exact ⟨first, by simp, (List.mem_singleton.mp inside).symm⟩
      · obtain ⟨l, here, same⟩ := ih later
        exact ⟨l, List.mem_cons_of_mem _ here, same⟩

end SetItem

namespace Grammar

/-- The number that digits are written for in base ten. -/
def numeral (digits : List Token) : Nat := Nat.ofDigitChars 10 (digits.flatMap Token.spelling) 0

/-- The digits of a bound, with any number of leading zeros. -/
structure Number (ts : List Lexeme) (n : Nat) : Prop where
  nonempty : ts ≠ []
  digits : ∀ l ∈ ts, l.token.isDigit
  value : numeral (ts.map (·.token)) = n
  small : n ≤ 10000

theorem Number.le_limit {ts : List Lexeme} {n : Nat} (number : Number ts n) : n ≤ Bounds.limit :=
  number.small

inductive Quantifier : List Lexeme → Bounds → Prop
  | star {l : Lexeme} (token : l.token = .star) : Quantifier [l] ⟨0, none⟩
  | plus {l : Lexeme} (token : l.token = .plus) : Quantifier [l] ⟨1, none⟩
  | question {l : Lexeme} (token : l.token = .question) : Quantifier [l] ⟨0, some 1⟩
  | exactly {opening closing : Lexeme} {ts : List Lexeme} {n : Nat}
      (opens : opening.token = .openBrace) (number : Number ts n)
      (closes : closing.token = .closeBrace) :
      Quantifier (opening :: (ts ++ [closing])) ⟨n, some n⟩
  | atLeast {opening comma closing : Lexeme} {ts : List Lexeme} {n : Nat}
      (opens : opening.token = .openBrace) (number : Number ts n) (between : comma.token = .comma)
      (closes : closing.token = .closeBrace) :
      Quantifier (opening :: (ts ++ [comma, closing])) ⟨n, none⟩
  | range {opening comma closing : Lexeme} {ts us : List Lexeme} {n m : Nat}
      (opens : opening.token = .openBrace) (number : Number ts n) (between : comma.token = .comma)
      (number' : Number us m) (closes : closing.token = .closeBrace) :
      Quantifier (opening :: (ts ++ comma :: (us ++ [closing]))) ⟨n, some m⟩

inductive Maybe (t : Token) : List Lexeme → Bool → Prop
  | absent : Maybe t [] false
  | present {l : Lexeme} (token : l.token = t) : Maybe t [l] true

/-- What stands between the brackets of a set: perhaps a caret, and then some tokens. A caret that comes
    first is always the negation mark. -/
structure Content (mark ts : List Lexeme) (negated : Bool) : Prop where
  mark : Maybe .caret mark negated
  nonempty : ts ≠ []
  inside : ∀ l ∈ ts, l.token ≠ .closeBracket
  marked : negated = false → ∀ l ∈ ts.head?, l.token ≠ .caret

theorem Content.single {mark : List Lexeme} {negated : Bool} {l : Lexeme}
    (marks : Maybe .caret mark negated) (inside : l.token ≠ .closeBracket)
    (marked : negated = false → l.token ≠ .caret) : Content mark [l] negated :=
  ⟨marks, by simp, by simpa using inside, by simpa using marked⟩

theorem Content.concat {mark ts : List Lexeme} {negated : Bool} {l : Lexeme}
    (content : Content mark ts negated) (inside : l.token ≠ .closeBracket) :
    Content mark (ts ++ [l]) negated := by
  refine ⟨content.mark, by simp, ?_, ?_⟩
  · simpa [or_imp, forall_and] using ⟨content.inside, inside⟩
  · rw [List.head?_append_of_ne_nil _ content.nonempty]
    exact content.marked

mutual

inductive Atom (atEnd : Span) : List Lexeme → Expr → Prop
  | token {l : Lexeme} (alone : l.token.isAtom) : Atom atEnd [l] (.token l.token l.span)
  | set {opening closing : Lexeme} {mark ts : List Lexeme} {negated : Bool}
      (opens : opening.token = .openBracket) (content : Content mark ts negated)
      (closes : closing.token = .closeBracket) :
      Atom atEnd (opening :: (mark ++ ts ++ [closing]))
        (.set negated (SetItem.ofLexemes ts) (opening.span.through closing.span))
  | group {opening closing : Lexeme} {ts : List Lexeme} {branches : List Branch}
      (opens : opening.token = .openParen) (inside : Alternation atEnd ts branches)
      (closes : closing.token = .closeParen) :
      Atom atEnd (opening :: (ts ++ [closing]))
        (.group branches (opening.span.through closing.span))

/-- An atom, perhaps with a quantifier. -/
inductive Element (atEnd : Span) : List Lexeme → Expr → Prop
  | once {ts : List Lexeme} {e : Expr} (atom : Atom atEnd ts e) : Element atEnd ts e
  | quantified {ts us : List Lexeme} {e : Expr} {bounds : Bounds} (atom : Atom atEnd ts e)
      (quantifier : Quantifier us bounds) :
      Element atEnd (ts ++ us) (.quantified e bounds (.since atEnd (ts ++ us) []))

inductive Elements (atEnd : Span) : List Lexeme → Branch → Prop
  | nil : Elements atEnd [] []
  | cons {ts us : List Lexeme} {e : Expr} {es : Branch} (first : Element atEnd ts e)
      (others : Elements atEnd us es) : Elements atEnd (ts ++ us) (e :: es)

inductive Alternation (atEnd : Span) : List Lexeme → List Branch → Prop
  | one {ts : List Lexeme} {es : Branch} (branch : Elements atEnd ts es) :
      Alternation atEnd ts [es]
  | more {ts us : List Lexeme} {bar : Lexeme} {es : Branch} {branches : List Branch}
      (branch : Elements atEnd ts es) (between : bar.token = .pipe)
      (others : Alternation atEnd us branches) : Alternation atEnd (ts ++ bar :: us) (es :: branches)

end

inductive Whole (atEnd : Span) : List Lexeme → Pattern → Prop
  | intro {before ts after : List Lexeme} {start stop : Bool} {branches : List Branch}
      (caret : Maybe .caret before start) (body : Alternation atEnd ts branches)
      (dollar : Maybe .dollar after stop) :
      Whole atEnd (before ++ ts ++ after)
        ⟨start, stop, branches, .since atEnd (before ++ ts ++ after) []⟩

variable {atEnd : Span}

theorem Atom.exists_cons {ts : List Lexeme} {e : Expr} (atom : Atom atEnd ts e) :
    ∃ l us, ts = l :: us ∧ l.token.startsAtom := by
  cases atom with
  | token alone => exact ⟨_, _, rfl, by simp [Token.startsAtom, alone]⟩
  | set opens => exact ⟨_, _, rfl, by simp [Token.startsAtom, opens]⟩
  | group opens => exact ⟨_, _, rfl, by simp [Token.startsAtom, opens]⟩

theorem Element.exists_cons {ts : List Lexeme} {e : Expr} (element : Element atEnd ts e) :
    ∃ l us, ts = l :: us ∧ l.token.startsAtom := by
  cases element with
  | once atom => exact atom.exists_cons
  | @quantified ts us e bounds atom quantifier =>
      obtain ⟨l, ts, rfl, starts⟩ := atom.exists_cons
      exact ⟨l, ts ++ us, rfl, starts⟩

theorem Element.ne_nil {ts : List Lexeme} {e : Expr} (element : Element atEnd ts e) : ts ≠ [] := by
  obtain ⟨l, us, rfl, -⟩ := element.exists_cons
  simp

theorem Alternation.exists_cons {ts : List Lexeme} {branches : List Branch}
    (alternation : Alternation atEnd ts branches) : ∃ es others, branches = es :: others := by
  cases alternation with
  | one | more => exact ⟨_, _, rfl⟩

theorem Alternation.whole {ts : List Lexeme} {branches : List Branch}
    (body : Alternation atEnd ts branches) :
    Whole atEnd ts ⟨false, false, branches, .since atEnd ts []⟩ := by
  have whole := Whole.intro .absent body .absent
  rwa [List.nil_append, List.append_nil] at whole

/-! ## Places inside of a pattern

What comes before a place is given by what stands there, group by group: of a group that is still open,
the branches and elements so far.
-/

/-- Before the tokens of an element. `depth` is the number of groups that are open. -/
inductive AtElement (atEnd : Span) : (depth : Nat) → List Lexeme → Prop
  | top {before ts : List Lexeme} {start : Bool} {branches : List Branch}
      (caret : Maybe .caret before start) (body : Alternation atEnd ts branches) :
      AtElement atEnd 0 (before ++ ts)
  | inside {depth : Nat} {before ts : List Lexeme} {opening : Lexeme} {branches : List Branch}
      (outer : AtElement atEnd depth before) (opens : opening.token = .openParen)
      (body : Alternation atEnd ts branches) : AtElement atEnd (depth + 1) (before ++ opening :: ts)

/-- Behind an atom, where its quantifier would stand. -/
inductive AtQuantifier (atEnd : Span) (depth : Nat) : List Lexeme → Prop
  | intro {before ts : List Lexeme} {e : Expr} (place : AtElement atEnd depth before)
      (atom : Atom atEnd ts e) : AtQuantifier atEnd depth (before ++ ts)

/-- Behind the opening brace of a quantifier. -/
inductive AtMinimum (atEnd : Span) (depth : Nat) : List Lexeme → Prop
  | intro {before : List Lexeme} {opening : Lexeme} (place : AtQuantifier atEnd depth before)
      (opens : opening.token = .openBrace) : AtMinimum atEnd depth (before ++ [opening])

/-- Behind the first bound of a quantifier and the comma. -/
inductive AtMaximum (atEnd : Span) (depth : Nat) : List Lexeme → Prop
  | intro {before ts : List Lexeme} {n : Nat} {comma : Lexeme} (place : AtMinimum atEnd depth before)
      (number : Number ts n) (between : comma.token = .comma) :
      AtMaximum atEnd depth (before ++ (ts ++ [comma]))

theorem Elements.append {ts us : List Lexeme} {es es' : Branch} (elements : Elements atEnd ts es)
    (elements' : Elements atEnd us es') : Elements atEnd (ts ++ us) (es ++ es') := by
  match elements with
  | .nil => exact elements'
  | .cons first others =>
      rw [List.append_assoc]
      exact .cons first (others.append elements')

theorem Elements.single {ts : List Lexeme} {e : Expr} (element : Element atEnd ts e) :
    Elements atEnd ts [e] := by
  rw [← List.append_nil ts]
  exact .cons element .nil

theorem Elements.concat {ts us : List Lexeme} {es : Branch} {e : Expr}
    (elements : Elements atEnd ts es) (last : Element atEnd us e) :
    Elements atEnd (ts ++ us) (es ++ [e]) :=
  elements.append (.single last)

theorem Alternation.concat {ts us : List Lexeme} {branches : List Branch} {e : Expr}
    (alternation : Alternation atEnd ts branches) (last : Element atEnd us e) :
    ∃ branches', Alternation atEnd (ts ++ us) branches' := by
  match alternation with
  | .one branch => exact ⟨_, .one (branch.concat last)⟩
  | .more branch between others =>
      obtain ⟨branches', others'⟩ := others.concat last
      rw [List.append_assoc, List.cons_append]
      exact ⟨_, .more branch between others'⟩

theorem Alternation.bar {ts : List Lexeme} {branches : List Branch} {l : Lexeme}
    (alternation : Alternation atEnd ts branches) (bar : l.token = .pipe) :
    ∃ branches', Alternation atEnd (ts ++ [l]) branches' := by
  match alternation with
  | .one branch => exact ⟨_, .more branch bar (.one .nil)⟩
  | .more branch between others =>
      obtain ⟨branches', others'⟩ := others.bar bar
      rw [List.append_assoc, List.cons_append]
      exact ⟨_, .more branch between others'⟩

theorem AtElement.concat {depth : Nat} {before ts : List Lexeme} {e : Expr}
    (place : AtElement atEnd depth before) (element : Element atEnd ts e) :
    AtElement atEnd depth (before ++ ts) := by
  cases place with
  | top caret body =>
      obtain ⟨branches', body'⟩ := body.concat element
      rw [List.append_assoc]
      exact .top caret body'
  | inside outer opens body =>
      obtain ⟨branches', body'⟩ := body.concat element
      rw [List.append_assoc, List.cons_append]
      exact .inside outer opens body'

theorem AtElement.bar {depth : Nat} {before : List Lexeme} {l : Lexeme}
    (place : AtElement atEnd depth before) (bar : l.token = .pipe) :
    AtElement atEnd depth (before ++ [l]) := by
  cases place with
  | top caret body =>
      obtain ⟨branches', body'⟩ := body.bar bar
      rw [List.append_assoc]
      exact .top caret body'
  | inside outer opens body =>
      obtain ⟨branches', body'⟩ := body.bar bar
      rw [List.append_assoc, List.cons_append]
      exact .inside outer opens body'

theorem AtElement.close {depth : Nat} {before : List Lexeme} {l : Lexeme}
    (place : AtElement atEnd (depth + 1) before) (closes : l.token = .closeParen) :
    AtQuantifier atEnd depth (before ++ [l]) := by
  cases place with
  | inside outer opens body =>
      rw [List.append_assoc, List.cons_append]
      exact .intro outer (.group opens body closes)

theorem AtQuantifier.atElement {depth : Nat} {before : List Lexeme}
    (place : AtQuantifier atEnd depth before) : AtElement atEnd depth before := by
  cases place with
  | intro place atom => exact place.concat (.once atom)

theorem AtQuantifier.quantified {depth : Nat} {before ts : List Lexeme} {bounds : Bounds}
    (place : AtQuantifier atEnd depth before) (quantifier : Quantifier ts bounds) :
    AtElement atEnd depth (before ++ ts) := by
  cases place with
  | intro place atom =>
      rw [List.append_assoc]
      exact place.concat (.quantified atom quantifier)

end Grammar

end PatternSampler
