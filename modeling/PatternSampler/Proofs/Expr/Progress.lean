import Mathlib
import PatternSampler.Expr.Reading

/-! # What readings leave

Readers are repeated and can use themselves, so a reading could go on for ever. Whether it does, and what
it leaves if it does not, is followed here through the ways in which readers are put together: there is one
rule for each of them. A repetition comes to an end when what is repeated takes a token each time.
-/

namespace PatternSampler

/-- `rest` is what is left of `ts` behind one or more of its tokens. -/
def ProperSuffix (rest ts : List Lexeme) : Prop := rest <:+ ts ∧ rest.length < ts.length

namespace ProperSuffix

variable {l : Lexeme} {rest middle ts : List Lexeme}

theorem of_cons (h : rest <:+ ts) : ProperSuffix rest (l :: ts) := by
  have le := h.length_le
  refine ⟨h.trans (List.suffix_cons l ts), ?_⟩
  simp only [List.length_cons]
  omega

theorem of_suffix (h : rest <:+ middle) (h' : ProperSuffix middle ts) : ProperSuffix rest ts :=
  ⟨h.trans h'.1, h.length_le.trans_lt h'.2⟩

theorem suffix_trans (h : ProperSuffix rest middle) (h' : middle <:+ ts) : ProperSuffix rest ts :=
  ⟨h.1.trans h', h.2.trans_le h'.length_le⟩

/-- Induction on tokens along `ProperSuffix`. -/
@[elab_as_elim]
theorem induction {motive : List Lexeme → Prop} (ts : List Lexeme)
    (step : ∀ ts, (∀ rest, ProperSuffix rest ts → motive rest) → motive ts) : motive ts := by
  induction length : ts.length using Nat.strong_induction_on generalizing ts
  rename_i length ih
  apply step
  intro rest proper
  exact ih rest.length (length ▸ proper.2) rest rfl

end ProperSuffix

namespace Reading

variable {α : Type} {P Q : List Lexeme → Prop} {reading : Reading α}

/-- The reading comes to an end, and what it leaves when it is done is as `P` says. -/
def Leaves (P : List Lexeme → Prop) : Reading α → Prop
  | .done _ rest _ => P rest
  | .refused _ => True
  | .endless => False

theorem Leaves.mono (h : reading.Leaves P) (weaker : ∀ rest, P rest → Q rest) : reading.Leaves Q := by
  cases reading with
  | done a rest alt => exact weaker rest h
  | refused s => trivial
  | endless => exact h

theorem Leaves.ne_endless (h : reading.Leaves P) : reading ≠ .endless := by
  rintro rfl
  exact h

end Reading

namespace Reader

open Reading (Leaves)

variable {α β : Type} {atEnd : Span} {P Q : List Lexeme → Prop} {r other : Reader α} {next : Reader β}
  {ts : List Lexeme}

/-- On all tokens `r` comes to an end, and it takes them from the front. -/
def Ends (r : Reader α) : Prop := ∀ ts, (r ts).Leaves (· <:+ ts)

/-- Besides, `r` takes a token at least unless it is refused. -/
def Advances (r : Reader α) : Prop := ∀ ts, (r ts).Leaves (ProperSuffix · ts)

theorem Advances.ends (advances : Advances r) : Ends r :=
  fun ts => (advances ts).mono fun _ proper => proper.1

/-! ## Single tokens -/

theorem one_leaves (pick : Token → Option α) (problem : Token → GrammarProblem) (ts : List Lexeme) :
    (one atEnd pick problem ts).Leaves fun rest => ∃ l, (pick l.token).isSome ∧ ts = l :: rest := by
  cases ts with
  | nil => trivial
  | cons l ts =>
      simp only [one]
      cases picked : pick l.token with
      | none => trivial
      | some a => exact ⟨l, by rw [picked]; rfl, rfl⟩

theorem one_advances (pick : Token → Option α) (problem : Token → GrammarProblem) :
    Advances (one atEnd pick problem) := by
  intro ts
  apply (one_leaves pick problem ts).mono
  rintro rest ⟨l, -, rfl⟩
  exact .of_cons List.suffix_rfl

theorem satisfying_advances (holds : Token → Bool) : Advances (satisfying atEnd holds) := one_advances _ _

theorem exactly_advances (t : Token) : Advances (exactly atEnd t) := satisfying_advances _

theorem exactly_leaves (t : Token) (ts : List Lexeme) :
    (exactly atEnd t ts).Leaves fun rest => ∃ l, l.token = t ∧ ts = l :: rest := by
  unfold exactly satisfying
  apply (one_leaves _ _ ts).mono
  rintro rest ⟨l, picked, rfl⟩
  exact ⟨l, by simpa using picked, rfl⟩

theorem finished_ends : Ends finished := by
  intro ts
  cases ts with
  | nil => exact List.suffix_rfl
  | cons l ts => trivial

/-! ## One reader, or one after the other -/

theorem map_leaves (h : (r ts).Leaves P) (f : α → β) : (r.map f ts).Leaves P := by
  unfold map
  cases read : r ts with
  | done a rest alt => rwa [read] at h
  | refused s => trivial
  | endless => rwa [read] at h

theorem spanned_leaves (h : (r ts).Leaves P) (f : α → Span → β) : (r.spanned atEnd f ts).Leaves P := by
  unfold spanned
  cases read : r ts with
  | done a rest alt => rwa [read] at h
  | refused s => trivial
  | endless => rwa [read] at h

theorem checked_leaves (h : (r ts).Leaves P) (check : α → Except GrammarProblem β) :
    (r.checked atEnd check ts).Leaves P := by
  unfold checked
  cases read : r ts with
  | done a rest alt =>
      rw [read] at h
      simp only
      cases check a with
      | ok b => exact h
      | error problem => trivial
  | refused s => trivial
  | endless => rwa [read] at h

theorem optional_leaves (h : (r ts).Leaves P) (here : P ts) : (r.optional ts).Leaves P := by
  unfold optional
  cases read : r ts with
  | done a rest alt => rwa [read] at h
  | refused s => exact here
  | endless => rwa [read] at h

theorem orElse_leaves (h : (r ts).Leaves P) (h' : (other ts).Leaves P) : (r.orElse other ts).Leaves P := by
  unfold orElse
  cases read : r ts with
  | done a rest alt => rwa [read] at h
  | refused s =>
      simp only
      cases read' : other ts with
      | done a rest alt => rwa [read'] at h'
      | refused s => trivial
      | endless => rwa [read'] at h'
  | endless => rwa [read] at h

theorem followedBy_leaves (h : (r ts).Leaves P) (h' : ∀ middle, P middle → (next middle).Leaves Q) :
    (r.followedBy next ts).Leaves Q := by
  unfold followedBy
  cases read : r ts with
  | done a middle alt =>
      rw [read] at h
      have after := h' middle h
      simp only
      cases read' : next middle with
      | done b rest alt' => rwa [read'] at after
      | refused s => trivial
      | endless => rwa [read'] at after
  | refused s => trivial
  | endless => rwa [read] at h

theorem Ends.optional (ends : Ends r) : Ends (optional r) :=
  fun ts => optional_leaves (ends ts) List.suffix_rfl

theorem followedBy_suffix (first : (r ts).Leaves (· <:+ ts)) (ends : Ends next) :
    (r.followedBy next ts).Leaves (· <:+ ts) := by
  apply followedBy_leaves first
  intro middle suffix
  exact (ends middle).mono fun rest suffix' => suffix'.trans suffix

theorem followedBy_proper (first : (r ts).Leaves (ProperSuffix · ts)) (ends : Ends next) :
    (r.followedBy next ts).Leaves (ProperSuffix · ts) := by
  apply followedBy_leaves first
  intro middle proper
  exact (ends middle).mono fun rest suffix => .of_suffix suffix proper

theorem between_proper {o c : Token}
    (inside : ∀ l us, ts = l :: us → l.token = o → (r us).Leaves (· <:+ us)) :
    (between atEnd o c r ts).Leaves (ProperSuffix · ts) := by
  apply map_leaves
  apply followedBy_proper _ (exactly_advances c).ends
  apply followedBy_leaves (exactly_leaves o ts)
  rintro us ⟨l, opens, rfl⟩
  exact (inside l us rfl opens).mono fun rest suffix => .of_cons suffix

theorem read_of_refused {s : Setback} (refused : r ts = .refused s) :
    r.optional ts = .done none ts (some s) ∧
      ∀ a rest alt, r.orElse other ts = .done a rest alt ↔ other ts = .done a rest alt := by
  refine ⟨by simp only [optional, refused], fun a rest alt => ?_⟩
  simp only [orElse, refused]
  cases other ts with
  | done | endless => rfl
  | refused s' => simp

/-! ## Repetition -/

/-- `r` reads one thing after the other until it is refused. What is left is what it was refused at. -/
inductive Repeats (r : Reader α) : List Lexeme → List α → List Lexeme → Prop
  | stop {ts : List Lexeme} {s : Setback} (refused : r ts = .refused s) : Repeats r ts [] ts
  | next {ts middle rest : List Lexeme} {a : α} {as : List α} {alt : Option Setback}
      (first : r ts = .done a middle alt) (others : Repeats r middle as rest) :
      Repeats r ts (a :: as) rest

/-- `r` takes a token each time, and so it can be read until it is refused. -/
structure Repeatable (r : Reader α) : Prop where
  advances : Advances r
  repeats : ∀ ts, ∃ as rest alt, many r ts = .done as rest alt ∧ Repeats r ts as rest

section Many

variable (advances : ∀ us, us <:+ ts → (r us).Leaves (ProperSuffix · us))
include advances

theorem exists_repeats :
    ∃ as rest alt, many r ts = .done as rest alt ∧ Repeats r ts as rest ∧ rest <:+ ts := by
  induction ts using ProperSuffix.induction with
  | step ts ih =>
      have first := advances ts List.suffix_rfl
      unfold many
      cases read : r ts with
      | done a middle alt =>
          rw [read] at first
          obtain ⟨as, rest, alt', done, others, suffix⟩ :=
            ih middle first fun us within => advances us (within.trans first.1)
          simp only [if_pos first.2, done]
          exact ⟨a :: as, rest, _, rfl, .next read others, suffix.trans first.1⟩
      | refused s => exact ⟨[], ts, some s, rfl, .stop read, List.suffix_rfl⟩
      | endless => exact absurd read first.ne_endless

theorem many_suffix : (many r ts).Leaves (· <:+ ts) := by
  obtain ⟨as, rest, alt, done, -, suffix⟩ := exists_repeats advances
  rw [done]
  exact suffix

/-- `many` runs its reader on suffixes of the tokens only. -/
theorem many_congr {r' : Reader α} (same : ∀ us, us <:+ ts → r us = r' us) : many r ts = many r' ts := by
  induction ts using ProperSuffix.induction with
  | step ts ih =>
      have first := advances ts List.suffix_rfl
      rw [many, many, ← same ts List.suffix_rfl]
      cases read : r ts with
      | done a middle alt =>
          rw [read] at first
          have others := ih middle first (fun us within => advances us (within.trans first.1))
            fun us within => same us (within.trans first.1)
          simp only [others]
      | refused s => rfl
      | endless => rfl

end Many

theorem Advances.many (advances : Advances r) : Ends (many r) := fun _ => many_suffix fun us _ => advances us

theorem Advances.manyOne (advances : Advances r) : Advances (manyOne r) :=
  fun ts => map_leaves (followedBy_proper (advances ts) advances.many) _

theorem Advances.repeatable (advances : Advances r) : Repeatable r := by
  refine ⟨advances, fun ts => ?_⟩
  obtain ⟨as, rest, alt, done, repeats, -⟩ := @exists_repeats α r ts fun us _ => advances us
  exact ⟨as, rest, alt, done, repeats⟩

section SeparatedBy

variable {separator : Reader β} (between : Advances separator)
  (each : ∀ us, us <:+ ts → (r us).Leaves (· <:+ us))
include between each

theorem separatedBy_suffix : (separatedBy separator r ts).Leaves (· <:+ ts) := by
  induction ts using ProperSuffix.induction with
  | step ts ih =>
      have first := each ts List.suffix_rfl
      unfold separatedBy
      cases read : r ts with
      | done a middle alt =>
          rw [read] at first
          have bar := between middle
          cases read' : separator middle with
          | done b after alt' =>
              rw [read'] at bar
              have proper : ProperSuffix after ts := bar.suffix_trans first
              have others := ih after proper fun us within => each us (within.trans proper.1)
              simp only [read', if_pos proper.2]
              cases read'' : separatedBy separator r after with
              | done bs rest alt'' =>
                  rw [read''] at others
                  cases bs with
                  | nil => exact first
                  | cons b bs => exact others.trans proper.1
              | refused s => trivial
              | endless => rwa [read''] at others
          | refused s =>
              simp only [read']
              exact first
          | endless => exact absurd read' bar.ne_endless
      | refused s => exact List.suffix_rfl
      | endless => exact absurd read first.ne_endless

theorem separatedBy_congr {r' : Reader α} (same : ∀ us, us <:+ ts → r us = r' us) :
    separatedBy separator r ts = separatedBy separator r' ts := by
  induction ts using ProperSuffix.induction with
  | step ts ih =>
      have first := each ts List.suffix_rfl
      rw [separatedBy, separatedBy, ← same ts List.suffix_rfl]
      cases read : r ts with
      | done a middle alt =>
          rw [read] at first
          have bar := between middle
          cases read' : separator middle with
          | done b after alt' =>
              rw [read'] at bar
              have proper : ProperSuffix after ts := bar.suffix_trans first
              have others := ih after proper (fun us within => each us (within.trans proper.1))
                fun us within => same us (within.trans proper.1)
              simp only [read', others]
          | refused s => simp only [read']
          | endless => simp only [read']
      | refused s => rfl
      | endless => rfl

end SeparatedBy

end Reader

end PatternSampler
