import Mathlib
import PatternSampler.Batch
import PatternSampler.Proofs.Generator.Samples
import PatternSampler.Proofs.Parse.Composition

/-! # Batches of different sizes

A batch begins like any larger batch of the same seed, so a sample can be told from its place alone,
however many are asked for. A pattern that is a row of elements can be written out as often as there are
samples. What is drawn from the longer pattern is then all the samples in a row.
-/

namespace PatternSampler

open Grammar

/-! ## Rows of elements -/

/-- The pattern is a row of elements, and these pieces are what is added for them. -/
def RowOf (pattern : String) (ss : List Sprout) : Prop :=
  ∃ ls es, tokenize pattern = .ok ls ∧ Elements (.emptyAt pattern.utf8ByteSize) ls es ∧
    Expr.sproutAll es = .ok ss

/-- The pattern as often as `n`, one after the other. -/
def copies (n : Nat) (pattern : String) : String := String.join (List.replicate n pattern)

namespace RowOf

variable {p q : String} {ss ss' : List Sprout}

theorem empty : RowOf "" [] := ⟨[], [], rfl, .nil, rfl⟩

theorem append (row : RowOf p ss) (row' : RowOf q ss') : RowOf (p ++ q) (ss ++ ss') := by
  obtain ⟨ls, es, tokens, elements, sprouted⟩ := row
  obtain ⟨ls', es', tokens', elements', sprouted'⟩ := row'
  have first := elements.mapSpan (.emptyAt (p ++ q).utf8ByteSize) Span.joins_same
  have second := elements'.mapSpan (.emptyAt (p ++ q).utf8ByteSize) (Span.joins_shift p.utf8ByteSize)
  rw [Lexeme.map_mapSpan_same] at first
  exact ⟨_, _, tokenize_append tokens tokens', first.append second,
    Expr.sproutAll_append ((Expr.sproutAll_mapSpanAll es).mpr sprouted)
      ((Expr.sproutAll_mapSpanAll es').mpr sprouted')⟩

theorem copies (row : RowOf p ss) (n : Nat) :
    RowOf (copies n p) (List.replicate n ss).flatten := by
  induction n with
  | zero => exact .empty
  | succ n ih =>
      rw [PatternSampler.copies, List.replicate_succ, String.join_cons, List.replicate_succ,
        List.flatten_cons]
      exact row.append ih

theorem parsed (row : RowOf p ss) :
    parse p = .ok (Tree.framed ss) ∧ Sprout.AllWellFormed ss := by
  obtain ⟨ls, es, tokens, elements, sprouted⟩ := row
  exact parse_of_elements tokens elements sprouted

end RowOf

/-! ## Requests -/

namespace GenerationRequest

variable {r : GenerationRequest} {t : Tree} {entropy : UInt64} {n : Nat}

/-- The same request for another number of samples. -/
def withCount (r : GenerationRequest) (count : Nat) : GenerationRequest := { r with count }

theorem run_of_parsed (parsed : parse r.pattern = .ok t) : r.run entropy =
    match (⟨t, r.extra⟩ : Generator).samples r.count (r.seed.getD entropy) with
    | .ok samples => .ok ⟨r.pattern, r.seed.getD entropy, samples⟩
    | .error e => .error (.fault e) := by
  simp only [run, Generator.ofPattern, parsed, Generator.withExtra, Except.map_ok]
  cases (⟨t, r.extra⟩ : Generator).samples r.count (r.seed.getD entropy) <;> rfl

theorem run_eq_ok (parsed : parse r.pattern = .ok t) {b : SampleBatch} : r.run entropy = .ok b ↔
    ∃ samples, (⟨t, r.extra⟩ : Generator).samples r.count (r.seed.getD entropy) = .ok samples ∧
      b = ⟨r.pattern, r.seed.getD entropy, samples⟩ := by
  rw [run_of_parsed parsed]
  cases (⟨t, r.extra⟩ : Generator).samples r.count (r.seed.getD entropy) <;> simp [eq_comm]

theorem run_eq_error (parsed : parse r.pattern = .ok t) {e : ProcessingError} :
    r.run entropy = .error e ↔ ∃ cause,
      (⟨t, r.extra⟩ : Generator).samples r.count (r.seed.getD entropy) = .error cause ∧
        e = .fault cause := by
  rw [run_of_parsed parsed]
  cases (⟨t, r.extra⟩ : Generator).samples r.count (r.seed.getD entropy) <;> simp [eq_comm]

/-- `GenerationRequest.run` extends the samples of every smaller count, and its first sample is what
    `Generator.generate` makes of the seed. For an `Unanchored` pattern of a single branch, the samples in a
    row are generated from as many `copies` of it. A run fails only for want of draws at one of its samples.
    -/
theorem run_extends (parsed : parse r.pattern = .ok t) (entropy : UInt64) :
    (∀ n e, (r.withCount n).run entropy = .error e → e = .fault .exhausted ∧
      ∃ k < n, ∃ texts s, (⟨t, r.extra⟩ : Generator).samplesFrom k
        (Seeded.ofSeed (r.seed.getD entropy)) = .ok (texts, s) ∧
        (⟨t, r.extra⟩ : Generator).drawFrom s = .error .exhausted) ∧
    (∀ n b, (r.withCount n).run entropy = .ok b →
      b.pattern = r.pattern ∧ b.seed = r.seed.getD entropy ∧ b.samples.length = n ∧
      (∀ k ≤ n, (r.withCount k).run entropy = .ok { b with samples := b.samples.take k }) ∧
      (1 ≤ n → ∃ text, (⟨t, r.extra⟩ : Generator).generate b.seed = .ok text ∧
        b.samples.head? = some text)) ∧
    ∀ ls, tokenize r.pattern = .ok ls → Unanchored ls → t.SingleBranch → ∀ n,
      ∃ u, parse (copies n r.pattern) = .ok u ∧
        (∀ b, (r.withCount n).run entropy = .ok b →
          (⟨u, r.extra⟩ : Generator).generate b.seed = .ok (String.join b.samples)) ∧
        ∀ e, (r.withCount n).run entropy = .error (.fault e) →
          (⟨u, r.extra⟩ : Generator).generate (r.seed.getD entropy) = .error e := by
  have parsed_with (n : Nat) : parse (r.withCount n).pattern = .ok t := parsed
  obtain ⟨tops, found, -⟩ := (Tree.Obtained.parsed parsed).built.exists_subtrees
  refine ⟨fun n e failed => ?_, fun n b done => ?_, fun ls tokens unanchored single n => ?_⟩
  · obtain ⟨cause, drawn, rfl⟩ := (run_eq_error (parsed_with n)).mp failed
    obtain rfl := Generator.samples_fault (.parsed parsed) drawn
    exact ⟨rfl, Generator.exists_of_samplesFrom_error found (map_eq_error.mp drawn)⟩
  · obtain ⟨samples, drawn, rfl⟩ := (run_eq_ok (parsed_with n)).mp done
    refine ⟨rfl, rfl, Generator.length_samples drawn, fun k le => ?_, fun some => ?_⟩
    · exact (run_eq_ok (parsed_with k)).mpr ⟨_, Generator.samples_take found le drawn, rfl⟩
    · obtain ⟨m, rfl⟩ := Nat.exists_eq_add_of_le' some
      exact Generator.exists_generate_of_samples drawn
  · obtain ⟨es, ss, elements, sprouted, wf, rfl⟩ :=
      exists_elements_of_parse tokens parsed unanchored single
    have row : RowOf r.pattern ss := ⟨ls, es, tokens, elements, sprouted⟩
    obtain ⟨parsed', wf'⟩ := (row.copies n).parsed
    refine ⟨_, parsed', fun b done => ?_, fun e failed => ?_⟩
    · obtain ⟨samples, drawn, rfl⟩ := (run_eq_ok (parsed_with n)).mp done
      rw [Generator.generate_copies wf wf']
      exact map_eq_ok.mpr ⟨samples, drawn, rfl⟩
    · obtain ⟨cause, drawn, same⟩ := (run_eq_error (parsed_with n)).mp failed
      cases same
      rw [Generator.generate_copies wf wf']
      exact map_eq_error.mpr drawn

/-- The tree of a letter with as many of another one as there may be. -/
def treeOfTail : Tree :=
  ⟨#[⟨.opening, none, #[1, 3]⟩, ⟨.choice, some 0, #[2]⟩,
    ⟨.characterClass ⟨.char 'a', .char 'c', rfl, rfl, by decide⟩, some 1, #[]⟩,
    ⟨.repetition (.atLeast 0), some 0, #[4]⟩, ⟨.token (.char 'x'), some 3, #[]⟩,
    ⟨.closing, none, #[]⟩], #[0, 5]⟩

theorem run_extends_tail :
    let r : GenerationRequest := { pattern := "[a-c]x*", seed := some 7 }
    (r.withCount 3).run 0 = .ok ⟨"[a-c]x*", 7, ["a", "bxxx", "cxxxxx"]⟩ ∧
    (r.withCount 2).run 0 = .ok ⟨"[a-c]x*", 7, ["a", "bxxx"]⟩ ∧
    (⟨treeOfTail, 5⟩ : Generator).generate 7 = .ok "a" ∧
    ∃ u, parse "[a-c]x*[a-c]x*[a-c]x*" = .ok u ∧
      (⟨u, 5⟩ : Generator).generate 7 = .ok "abxxxcxxxxx" := by
  intro r
  have parsed : parse r.pattern = .ok treeOfTail := by decide +kernel
  have tokens : tokenize r.pattern = .ok (Token.layout 0 [.openBracket, .char 'a', .dash, .char 'c',
      .closeBracket, .char 'x', .star]) := by decide +kernel
  have done : (r.withCount 3).run 0 = .ok ⟨"[a-c]x*", 7, ["a", "bxxx", "cxxxxx"]⟩ := by decide +kernel
  obtain ⟨-, larger, written⟩ := run_extends parsed 0
  obtain ⟨-, -, -, smaller, first⟩ := larger 3 _ done
  obtain ⟨text, alone, head⟩ := first (by decide)
  obtain ⟨u, parsed', joined, -⟩ := written _ tokens (by decide +kernel) (by decide +kernel) 3
  have thrice : copies 3 r.pattern = "[a-c]x*[a-c]x*[a-c]x*" := by decide +kernel
  have in_a_row : String.join ["a", "bxxx", "cxxxxx"] = "abxxxcxxxxx" := by decide +kernel
  cases head
  exact ⟨done, smaller 2 (by decide), alone, u, thrice ▸ parsed',
    (joined _ done).trans (congrArg Except.ok in_a_row)⟩

end GenerationRequest

end PatternSampler
