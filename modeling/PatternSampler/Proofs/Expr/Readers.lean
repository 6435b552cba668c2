import Mathlib
import PatternSampler.Proofs.Expr.Place
import PatternSampler.Proofs.Lists

/-! # What readers answer

A reading is followed through the ways in which readers are put together. Most refusals that are met on
the way do not stand behind what comes next, so they are never the one that is reported in the end.
-/

namespace PatternSampler

variable {atEnd : Span}

namespace Setback

/-- No refusal of `alt` stands behind the first token of `rest`. -/
def NotPast (rest : List Lexeme) (alt : Option Setback) : Prop := ∀ s ∈ alt, rest.length ≤ s.left

theorem notPast_none {rest : List Lexeme} : NotPast rest none := nofun

theorem notPast_here {problem : Token → GrammarProblem} {rest : List Lexeme} :
    NotPast rest (some (here atEnd problem rest)) := by
  intro s member
  cases member
  exact (here_left atEnd problem rest).ge

theorem NotPast.orFurther {rest : List Lexeme} {alt : Option Setback} (h : NotPast rest alt)
    {s : Setback} (within : s.left ≤ rest.length) : s.orFurther alt = s := by
  cases alt with
  | none => rfl
  | some t => exact if_neg (within.trans (h t rfl)).not_gt

theorem NotPast.furthest {rest : List Lexeme} {alt alt' : Option Setback} (h : NotPast rest alt)
    (h' : NotPast rest alt') : NotPast rest (furthest alt' alt) := by
  cases alt' with
  | none => exact h
  | some s =>
      cases alt with
      | none => exact h'
      | some t =>
          intro u member
          cases member
          simp only [Setback.orFurther]
          split
          · exact h t rfl
          · exact h' s rfl

@[simp] theorem furthest_none (alt : Option Setback) : furthest alt none = alt := by
  cases alt <;> rfl

@[simp] theorem some_furthest (s : Setback) (alt : Option Setback) :
    furthest (some s) alt = some (s.orFurther alt) := rfl

@[simp] theorem orFurther_none (s : Setback) : s.orFurther none = s := rfl

@[simp] theorem orFurther_self (s : Setback) : s.orFurther (some s) = s := if_neg (lt_irrefl _)

theorem NotPast.mono {rest rest' : List Lexeme} {alt : Option Setback} (h : NotPast rest alt)
    (shorter : rest'.length ≤ rest.length) : NotPast rest' alt :=
  fun s member => shorter.trans (h s member)

end Setback

open Setback (NotPast notPast_none notPast_here)

theorem Span.since_append {ts : List Lexeme} (nonempty : ts ≠ []) (rest : List Lexeme) :
    Span.since atEnd (ts ++ rest) rest = Span.since atEnd ts [] := by
  cases ts with
  | nil => contradiction
  | cons l ts =>
      have taken : ts.length + rest.length + 1 - rest.length = ts.length + 1 := by omega
      simp [Span.since, taken]

theorem Span.since_closed (l l' : Lexeme) (ts rest : List Lexeme) :
    Span.since atEnd (l :: (ts ++ l' :: rest)) rest = l.span.through l'.span := by
  have split : l :: (ts ++ l' :: rest) = (l :: (ts ++ [l'])) ++ rest := by simp
  rw [split, Span.since_append (by simp)]
  simp only [Span.since, List.length_nil, Nat.sub_zero, List.take_length]
  rw [← List.cons_append, List.getLast?_concat, Option.getD_some]

namespace Reader

variable {α β : Type} {l : Lexeme} {ts rest : List Lexeme}

/-- `r` reads `a` and leaves `rest`, and what it was refused on the way does not stand behind the first
    token that is left. -/
def Reads (r : Reader α) (ts : List Lexeme) (a : α) (rest : List Lexeme) : Prop :=
  ∃ alt, r ts = .done a rest alt ∧ NotPast rest alt

namespace Reads

variable {r : Reader α} {a : α}

theorem map (h : r.Reads ts a rest) (f : α → β) : (r.map f).Reads ts (f a) rest := by
  obtain ⟨alt, done, behind⟩ := h
  exact ⟨alt, by simp only [Reader.map, done], behind⟩

theorem spanned (h : r.Reads ts a rest) (f : α → Span → β) :
    (r.spanned atEnd f).Reads ts (f a (.since atEnd ts rest)) rest := by
  obtain ⟨alt, done, behind⟩ := h
  exact ⟨alt, by simp only [Reader.spanned, done], behind⟩

theorem followedBy {next : Reader β} {b : β} {middle : List Lexeme} (h : r.Reads ts a middle)
    (h' : next.Reads middle b rest) (shorter : rest.length ≤ middle.length) :
    (r.followedBy next).Reads ts (a, b) rest := by
  obtain ⟨alt, done, behind⟩ := h
  obtain ⟨alt', done', behind'⟩ := h'
  exact ⟨_, by simp only [Reader.followedBy, done, done'], (behind.mono shorter).furthest behind'⟩

theorem followedBy_refused {next : Reader β} {s : Setback} (h : r.Reads ts a rest)
    (refused : next rest = .refused s) (within : s.left ≤ rest.length) :
    r.followedBy next ts = .refused s := by
  obtain ⟨alt, done, behind⟩ := h
  simp only [Reader.followedBy, done, refused, behind.orFurther within]

theorem optional (h : r.Reads ts a rest) : r.optional.Reads ts (some a) rest := by
  obtain ⟨alt, done, behind⟩ := h
  exact ⟨alt, by simp only [Reader.optional, done], behind⟩

theorem orElse {other : Reader α} (h : r.Reads ts a rest) : (r.orElse other).Reads ts a rest := by
  obtain ⟨alt, done, behind⟩ := h
  exact ⟨alt, by simp only [Reader.orElse, done], behind⟩

theorem orElse_other {other : Reader α} {s : Setback} (refused : r ts = .refused s)
    (h : other.Reads ts a rest) : (r.orElse other).Reads ts a rest := by
  obtain ⟨alt, done, behind⟩ := h
  exact ⟨alt, by simp only [Reader.orElse, refused, done], behind⟩

theorem many {as : List α} {middle : List Lexeme} (h : r.Reads ts a middle)
    (shorter : middle.length < ts.length) (h' : Reads (Reader.many r) middle as rest)
    (shorter' : rest.length ≤ middle.length) : Reads (Reader.many r) ts (a :: as) rest := by
  obtain ⟨alt, done, behind⟩ := h
  obtain ⟨alt', done', behind'⟩ := h'
  refine ⟨_, ?_, (behind.mono shorter').furthest behind'⟩
  rw [Reader.many]
  simp only [done, if_pos shorter, done']

theorem manyOne {as : List α} (h : Reads (Reader.many r) ts (a :: as) rest) :
    Reads (Reader.manyOne r) ts (a :: as) rest := by
  obtain ⟨alt, done, behind⟩ := h
  refine ⟨alt, ?_, behind⟩
  rw [Reader.many] at done
  simp only [Reader.manyOne, Reader.map, Reader.followedBy]
  cases first : r ts with
  | refused s => simp [first] at done
  | endless => simp [first] at done
  | done b middle alt' =>
      simp only [first] at done
      split at done
      · cases others : Reader.many r middle with
        | refused s => simp [others] at done
        | endless => simp [others] at done
        | done bs rest' alt'' =>
            simp only [others] at done
            cases done
            simp only [others]
      · cases done

theorem separatedBy_one {separator : Reader β} {s : Setback} (h : r.Reads ts a rest)
    (refused : separator rest = .refused s) (here : s.left = rest.length) :
    Reads (Reader.separatedBy separator r) ts [a] rest := by
  obtain ⟨alt, done, behind⟩ := h
  have behind' : NotPast rest (some s) := fun t member => by cases member; exact here.ge
  refine ⟨_, ?_, behind.furthest behind'⟩
  rw [Reader.separatedBy]
  simp only [done, refused]

theorem separatedBy_more {separator : Reader β} {b : β} {c : α} {cs : List α}
    {middle after : List Lexeme} (h : r.Reads ts a middle) (h' : separator.Reads middle b after)
    (shorter : after.length < ts.length) (shorter' : after.length ≤ middle.length)
    (h'' : Reads (Reader.separatedBy separator r) after (c :: cs) rest)
    (shorter'' : rest.length ≤ after.length) :
    Reads (Reader.separatedBy separator r) ts (a :: c :: cs) rest := by
  obtain ⟨alt, done, behind⟩ := h
  obtain ⟨alt', done', behind'⟩ := h'
  obtain ⟨alt'', done'', behind''⟩ := h''
  refine ⟨_, ?_, (((behind.mono shorter').furthest behind').mono shorter'').furthest behind''⟩
  rw [Reader.separatedBy]
  simp only [done, done', if_pos shorter, done'']

end Reads

theorem optional_reads_none {r : Reader α} {s : Setback} (h : r ts = .refused s)
    (here : s.left = ts.length) : r.optional.Reads ts none ts :=
  ⟨some s, by simp only [optional, h], fun t member => by cases member; exact here.ge⟩

theorem many_reads_nil {r : Reader α} {s : Setback} (h : r ts = .refused s)
    (here : s.left = ts.length) : Reads (many r) ts [] ts :=
  ⟨some s, by rw [many, h], fun t member => by cases member; exact here.ge⟩

theorem manyOne_refused {r : Reader α} {s : Setback} (h : r ts = .refused s) :
    manyOne r ts = .refused s := by
  simp only [manyOne, map, followedBy, h]

theorem refused_orElse {r other : Reader α} {s s' : Setback} (h : r ts = .refused s)
    (h' : other ts = .refused s') : r.orElse other ts = .refused (s'.orFurther (some s)) := by
  simp only [orElse, h, h']

theorem orElse_refused_here {r other : Reader α} {problem : Token → GrammarProblem}
    (h : r ts = .refused (.here atEnd problem ts)) (h' : other ts = .refused (.here atEnd problem ts)) :
    r.orElse other ts = .refused (.here atEnd problem ts) := by
  rw [refused_orElse h h', Setback.orFurther_self]

theorem orElse_refused_further {r other : Reader α} {problem : Token → GrammarProblem} {s : Setback}
    (h : r ts = .refused s) (further : s.left < ts.length)
    (h' : other ts = .refused (.here atEnd problem ts)) : r.orElse other ts = .refused s := by
  rw [refused_orElse h h', Setback.orFurther, if_pos (by simpa using further)]

theorem map_refused {r : Reader α} {s : Setback} (h : r ts = .refused s) (f : α → β) :
    r.map f ts = .refused s := by
  simp only [map, h]

theorem spanned_refused {r : Reader α} {s : Setback} (h : r ts = .refused s) (f : α → Span → β) :
    r.spanned atEnd f ts = .refused s := by
  simp only [spanned, h]

theorem begins_or_not (t : Token) (ts : List Lexeme) :
    (∃ l rest, ts = l :: rest ∧ l.token = t) ∨ ∀ l ∈ ts.head?, l.token ≠ t := by
  cases ts with
  | nil => exact .inr nofun
  | cons l ts =>
      by_cases first : l.token = t
      · exact .inl ⟨l, ts, rfl, first⟩
      · exact .inr (by simpa using first)

theorem exists_maybe (t : Token) (ts : List Lexeme) : ∃ mark body found, ts = mark ++ body ∧
    Grammar.Maybe t mark found ∧ (found = false → ∀ l ∈ body.head?, l.token ≠ t) := by
  rcases begins_or_not t ts with ⟨l, body, rfl, token⟩ | absent
  · exact ⟨[l], body, true, rfl, .present token, nofun⟩
  · exact ⟨[], ts, false, rfl, .absent, fun _ => absent⟩

/-! ## Single tokens -/

theorem one_takes {pick : Token → Option α} {problem : Token → GrammarProblem} {a : α}
    (h : pick l.token = some a) : one atEnd pick problem (l :: ts) = .done a ts none := by
  simp only [one, h]

theorem one_refuses {pick : Token → Option α} {problem : Token → GrammarProblem}
    (h : ∀ l ∈ ts.head?, pick l.token = none) :
    one atEnd pick problem ts = .refused (.here atEnd problem ts) := by
  cases ts with
  | nil => rfl
  | cons l ts => simp only [one, h l rfl, Setback.here]

theorem satisfying_takes {holds : Token → Bool} (h : holds l.token) :
    satisfying atEnd holds (l :: ts) = .done l.token ts none :=
  one_takes (if_pos h)

theorem satisfying_reads {holds : Token → Bool} (h : holds l.token) :
    (satisfying atEnd holds).Reads (l :: ts) l.token ts :=
  ⟨none, satisfying_takes h, notPast_none⟩

theorem satisfying_refuses {holds : Token → Bool} (h : ∀ l ∈ ts.head?, holds l.token = false) :
    satisfying atEnd holds ts = .refused (.here atEnd .unexpected ts) :=
  one_refuses fun l first => if_neg (by simp [h l first])

theorem exactly_takes {t : Token} (h : l.token = t) : exactly atEnd t (l :: ts) = .done t ts none := by
  rw [exactly, satisfying_takes (by simpa using h), h]

theorem exactly_reads {t : Token} (h : l.token = t) : (exactly atEnd t).Reads (l :: ts) t ts :=
  ⟨none, exactly_takes h, notPast_none⟩

theorem exactly_refuses {t : Token} (h : ∀ l ∈ ts.head?, l.token ≠ t) :
    exactly atEnd t ts = .refused (.here atEnd .unexpected ts) :=
  satisfying_refuses fun l first => by simpa using h l first

theorem exactly_refuses_cons {t : Token} (h : l.token ≠ t) :
    exactly atEnd t (l :: ts) = .refused (.here atEnd .unexpected (l :: ts)) :=
  exactly_refuses (by simpa using h)

theorem digit_takes (h : l.token.isDigit) : digit atEnd (l :: ts) = .done l.token ts none :=
  one_takes (if_pos (by rwa [Token.isSome_digit?]))

theorem digit_refuses (h : ∀ l ∈ ts.head?, l.token.isDigit = false) :
    digit atEnd ts = .refused (.here atEnd .notADigit ts) :=
  one_refuses fun l first => if_neg (by simp [Token.isSome_digit?, h l first])

/-! ## What stands between two tokens -/

section Between

variable {o c : Token} {r : Reader α} {a : α} {us : List Lexeme}

theorem between_refuses (h : ∀ l ∈ ts.head?, l.token ≠ o) :
    between atEnd o c r ts = .refused (.here atEnd .unexpected ts) := by
  simp only [between, map, followedBy, exactly_refuses h]

theorem between_refused {s : Setback} (opens : l.token = o) (inner : r us = .refused s) :
    between atEnd o c r (l :: us) = .refused s := by
  simp only [between, map, followedBy, exactly_takes opens, inner, Setback.orFurther]

theorem between_reads {closing : Lexeme} (opens : l.token = o) (inner : r.Reads us a (closing :: rest))
    (shorter : rest.length < us.length) (closes : closing.token = c) :
    (between atEnd o c r).Reads (l :: us) a rest :=
  (((exactly_reads opens).followedBy inner shorter).followedBy (exactly_reads closes) (by simp)).map _

theorem between_not_closed {alt : Option Setback} (opens : l.token = o) (inner : r us = .done a rest alt)
    (unclosed : ∀ l ∈ rest.head?, l.token ≠ c) :
    between atEnd o c r (l :: us) = .refused ((Setback.here atEnd .unexpected rest).orFurther alt) := by
  simp only [between, map, followedBy, exactly_takes opens, inner, exactly_refuses unclosed,
    Setback.furthest_none]

theorem between_reads_not_closed (opens : l.token = o) (inner : r.Reads us a rest)
    (unclosed : ∀ l ∈ rest.head?, l.token ≠ c) :
    between atEnd o c r (l :: us) = .refused (.here atEnd .unexpected rest) := by
  obtain ⟨alt, done, behind⟩ := inner
  rw [between_not_closed opens done unclosed, behind.orFurther (by simp)]

end Between

end Reader

end PatternSampler
