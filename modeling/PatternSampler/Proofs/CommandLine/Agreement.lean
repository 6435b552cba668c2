import Mathlib
import PatternSampler.CommandLine
import PatternSampler.Proofs.Generator.Samples
import PatternSampler.Proofs.Parse.Outline
import PatternSampler.Proofs.Settings.Panics

/-! # Commands that agree

The three commands read a pattern in the same way. What one of them cannot read no other can, and they
say the same about it, but for the words that a generation puts before it. A generation settles its
settings first, so without settings it says nothing about the pattern. It should report all that is wrong
with them, but a key with a place that its list cannot have makes it panic.
-/

namespace PatternSampler

/-! ## What each command comes to -/

theorem listed_of_refused {pattern : String} {e : LexError} (refused : tokenize pattern = .error e) :
    listed pattern = .error (.lex e) := by
  rw [listed, refused]
  rfl

theorem listed_of_tokens {pattern : String} {ls : List Lexeme} (tokens : tokenize pattern = .ok ls) :
    listed pattern = .ok (printedListing ls) := by
  rw [listed, tokens]
  rfl

theorem exists_listed_iff {pattern : String} :
    (∃ output, listed pattern = .ok output) ↔ ∃ ls, tokenize pattern = .ok ls := by
  cases tokens : tokenize pattern with
  | ok ls => simp [listed_of_tokens tokens]
  | error e => simp [listed_of_refused tokens]

theorem listed_ne_panic {pattern : String} (cause : PlaceFault) :
    listed pattern ≠ .error (.settings (.badPlace cause)) := by
  cases tokens : tokenize pattern with
  | ok ls => simp [listed_of_tokens tokens]
  | error e => simp [listed_of_refused tokens]

theorem checked_of_refused {pattern : String} {e : ParseError} (refused : parse pattern = .error e)
    (withTree : Bool) : checked pattern withTree = .error (.parse e) := by
  rw [checked, refused]
  rfl

theorem checked_of_parsed {pattern : String} {t : Tree} (parsed : parse pattern = .ok t)
    (withTree : Bool) : ∃ output, checked pattern withTree = .ok output := by
  obtain ⟨ss, wf, -, rfl⟩ := exists_framed_of_parse parsed
  rw [checked, parsed]
  cases withTree with
  | false => exact ⟨_, rfl⟩
  | true =>
      simp only [CommandError.lift, ok_then, Tree.outline_framed wf]
      exact ⟨_, rfl⟩

theorem exists_checked_iff {pattern : String} (withTree : Bool) :
    (∃ output, checked pattern withTree = .ok output) ↔ ∃ t, parse pattern = .ok t := by
  cases parsed : parse pattern with
  | ok t => simp [checked_of_parsed parsed]
  | error e => simp [checked_of_refused parsed]

theorem checked_ne_panic {pattern : String} (withTree : Bool) (cause : PlaceFault) :
    checked pattern withTree ≠ .error (.settings (.badPlace cause)) := by
  cases parsed : parse pattern with
  | ok t =>
      obtain ⟨output, done⟩ := checked_of_parsed parsed withTree
      simp [done]
  | error e => simp [checked_of_refused parsed]

namespace Given

/-- The settings that a generation goes by. -/
def loaded (g : Given) (s : Surroundings) : Except SettingsError Settings := do
  (← g.loader).build s

/-- What the settings of a generation are layered from, over the defaults and under the options. -/
def layers (g : Given) : List Layer :=
  .file localSettingsFile false :: ((g.config.map (Layer.file · true)).toList ++ [.environment])

variable {g : Given} {pattern : String} {s : Surroundings} {entropy : UInt64} {settings : Settings}

/-- What the options of a generation set. -/
def overriding (g : Given) : List (List PathStep × Scalar) :=
  (g.format.map fun format => ([.key "output", .key "format"], .string format.name)).toList ++
    (g.count.map fun count => ([.key "output", .key "count"], .integer count.toNat)).toList

theorem loader_eq (g : Given) : g.loader = .ok ⟨g.layers, g.overriding⟩ := by
  obtain ⟨pattern, seed, count, format, config, ast⟩ := g
  have format_key : PathStep.ofText? "output.format" = some [.key "output", .key "format"] := by
    decide +kernel
  have count_key : PathStep.ofText? "output.count" = some [.key "output", .key "count"] := by
    decide +kernel
  cases config <;> cases format <;> cases count <;>
    simp [loader, Loader.setOverride, format_key, count_key, layers, overriding, ok_then, Loader.empty,
      Loader.withOptionalFile, Loader.withFile, Loader.withEnvironment]

theorem named_overriding (g : Given) :
    ∀ o ∈ g.overriding, o.1 ≠ [] ∧ (Assignment.ofOverride o).Named := by
  intro o member
  have path : o.1 = [.key "output", .key "format"] ∨ o.1 = [.key "output", .key "count"] := by
    rcases List.mem_append.mp member with set | set
    · obtain ⟨format, -, rfl⟩ := Option.map_eq_some_iff.mp (Option.mem_toList.mp set)
      exact .inl rfl
    · obtain ⟨count, -, rfl⟩ := Option.map_eq_some_iff.mp (Option.mem_toList.mp set)
      exact .inr rfl
  rcases path with is | is <;>
    simp [Assignment.ofOverride, Assignment.Named, is, PathStep.isKey, PathStep.lowercase]

theorem handled_loaded (plain : Loader.Plain g.layers s) : Handled (g.loaded s) := by
  rw [loaded, g.loader_eq]
  exact Loader.handled_build plain g.named_overriding

theorem generated_of_unloaded {e : SettingsError} (failed : g.loaded s = .error e) :
    g.generated pattern s entropy = .error (.settings e) := by
  rw [generated, ← loaded, failed]
  rfl

theorem generated_of_refused {e : ParseError} (loads : g.loaded s = .ok settings)
    (refused : parse pattern = .error e) :
    g.generated pattern s entropy = .error (.processing (.pattern e)) := by
  rw [generated, ← loaded, loads]
  simp only [CommandError.lift, GenerationRequest.run, Generator.ofPattern, refused]
  rfl

theorem generated_of_parsed {t : Tree} (loads : g.loaded s = .ok settings)
    (parsed : parse pattern = .ok t) : g.generated pattern s entropy =
      match (⟨t, settings.extra⟩ : Generator).samples settings.count (g.seed.getD entropy) with
      | .ok samples =>
        .ok ((⟨pattern, g.seed.getD entropy, samples⟩ : SampleBatch).printed settings.format)
      | .error e => .error (.processing (.fault e)) := by
  rw [generated, ← loaded, loads]
  simp only [CommandError.lift, ok_then, GenerationRequest.run, Generator.ofPattern, parsed,
    Generator.withExtra, Functor.map, Except.map]
  cases (⟨t, settings.extra⟩ : Generator).samples settings.count (g.seed.getD entropy) <;> rfl

theorem exists_samples_of_generated {output : String} (loads : g.loaded s = .ok settings)
    (done : g.generated pattern s entropy = .ok output) :
    ∃ t samples, parse pattern = .ok t ∧
      (⟨t, settings.extra⟩ : Generator).samples settings.count (g.seed.getD entropy) = .ok samples ∧
      output =
        (⟨pattern, g.seed.getD entropy, samples⟩ : SampleBatch).printed settings.format := by
  cases parsed : parse pattern with
  | error e => cases (generated_of_refused loads parsed).symm.trans done
  | ok t =>
      rw [generated_of_parsed loads parsed] at done
      cases drawn : (⟨t, settings.extra⟩ : Generator).samples settings.count
          (g.seed.getD entropy) with
      | error e =>
          rw [drawn] at done
          cases done
      | ok samples =>
          rw [drawn] at done
          cases done
          exact ⟨t, samples, rfl, drawn, rfl⟩

/-- With settings that load and draws that do not run out, `Given.generated` succeeds exactly on patterns
    that `parse`. -/
theorem exists_generated_iff (loads : g.loaded s = .ok settings)
    (enough : g.generated pattern s entropy ≠ .error (.processing (.fault .exhausted))) :
    (∃ output, g.generated pattern s entropy = .ok output) ↔ ∃ t, parse pattern = .ok t := by
  constructor
  · rintro ⟨output, done⟩
    obtain ⟨t, -, parsed, -⟩ := exists_samples_of_generated loads done
    exact ⟨t, parsed⟩
  · rintro ⟨t, parsed⟩
    rw [generated_of_parsed loads parsed] at enough ⊢
    cases drawn : (⟨t, settings.extra⟩ : Generator).samples settings.count (g.seed.getD entropy) with
    | ok samples => exact ⟨_, rfl⟩
    | error e =>
        obtain rfl := Generator.samples_fault (.parsed parsed) drawn
        rw [drawn] at enough
        exact (enough rfl).elim

end Given

namespace Invocation

/-- Behind `--`, `Invocation.ofArguments` takes any text for the pattern. -/
theorem ofArguments_separated (c : Command) (pattern : String) :
    ofArguments [c.name, "--", pattern] = .ok (.run c pattern { pattern := some pattern }) := by
  have no_help : asksForHelp c.name = false := by cases c <;> decide +kernel
  have no_version : asksForVersion c.name = false := by cases c <;> decide +kernel
  have no_help_word : c.name ≠ helpWord := by cases c <;> decide
  have named : Command.ofName? c.name = some c := by cases c <;> decide
  have separates : c.argument true "--" = .separator := by cases c <;> decide +kernel
  simp only [ofArguments, no_help, no_version, no_help_word, named, Command.read, Option.isNone_none,
    separates, Bool.false_eq_true, if_false]
  rfl

end Invocation

/-! ## How the program ends -/

namespace Outcome

variable {result : Except CommandError String}

theorem ofArguments_eq {texts : List String} {i : Invocation}
    (asked : Invocation.ofArguments texts = .ok i) (s : Surroundings) (entropy : UInt64) :
    ofArguments s entropy texts = ended (i.output s entropy) := by
  simp only [ofArguments, asked]

theorem exitCode_ended : (ended result).exitCode = 0 ↔ ∃ output, result = .ok output := by
  unfold ended
  split
  · exact ⟨fun _ => ⟨_, rfl⟩, fun _ => rfl⟩
  · exact ⟨nofun, nofun⟩
  · exact ⟨nofun, nofun⟩

theorem exitCode_ended_error (cause : CommandError) : (ended (.error cause)).exitCode ≠ 0 := by
  simp [exitCode_ended]

theorem ended_settings {e : SettingsError} (handled : ∀ cause, e ≠ .badPlace cause) :
    ended (.error (.settings e)) = failure (.settings e) := by
  cases e with
  | badPlace cause => exact (handled cause rfl).elim
  | _ => rfl

theorem fails_ended (handled : ∀ cause, result ≠ .error (.settings (.badPlace cause)))
    (failed : (ended result).exitCode ≠ 0) :
    (ended result).exitCode = 1 ∧ (ended result).standardOutput = "" := by
  unfold ended at failed ⊢
  split at failed
  · exact (failed rfl).elim
  · exact (handled _ rfl).elim
  · exact ⟨rfl, rfl⟩

/-- The end of a generation whose seed gives too few draws for its samples. -/
def ranOut : Outcome := failure (.processing (.fault .exhausted))

end Outcome

/-- What the outcomes of the three commands for one pattern have to do with each other, if the settings
    of the generation are `loaded` and its seed is `seed`. -/
structure CommandsAgree (pattern : String) (loaded : Except SettingsError Settings) (seed : UInt64)
    (tokens check generate : Outcome) : Prop where
  fails : ∀ o ∈ [tokens, check], o.exitCode ≠ 0 → o.exitCode = 1 ∧ o.standardOutput = ""
  tokens_iff : tokens.exitCode = 0 ↔ ∃ ls, tokenize pattern = .ok ls
  check_iff : check.exitCode = 0 ↔ ∃ t, parse pattern = .ok t
  /-- What has no tokens has no tree for the same reason. -/
  check_of_tokens : tokens.exitCode ≠ 0 →
    check.exitCode ≠ 0 ∧ check.standardError = tokens.standardError
  generate_fails : Handled loaded → generate.exitCode ≠ 0 →
    generate.exitCode = 1 ∧ generate.standardOutput = ""
  unloaded : ∀ e, loaded = .error e → Handled loaded →
    generate.exitCode = 1 ∧ generate.standardError = "Error: " ++ e.message ++ "\n"
  /-- The failure that is not reported. -/
  panics : ∀ cause, loaded = .error (.badPlace cause) → generate = .panic cause ∧ generate.exitCode = 101
  generate_iff : ∀ settings, loaded = .ok settings → generate ≠ .ranOut →
    (generate.exitCode = 0 ↔ ∃ t, parse pattern = .ok t)
  generate_of_check : ∀ settings, loaded = .ok settings → check.exitCode ≠ 0 →
    ∃ message, check.standardError = "Error: " ++ message ++ "\n" ∧
      generate.standardError = "Error: invalid pattern: " ++ message ++ "\n" ∧ generate.exitCode = 1
  printed : ∀ settings, loaded = .ok settings → generate.exitCode = 0 →
    ∃ g samples, Generator.ofPattern pattern = .ok g ∧
      (g.withExtra settings.extra).samples settings.count seed = .ok samples ∧
      generate.standardOutput = (⟨pattern, seed, samples⟩ : SampleBatch).printed settings.format

namespace Given

variable {g : Given} {pattern : String} {s : Surroundings} {entropy : UInt64}

theorem generated_ne_panic (handled : Handled (g.loaded s)) (cause : PlaceFault) :
    g.generated pattern s entropy ≠ .error (.settings (.badPlace cause)) := by
  cases loads : g.loaded s with
  | error e =>
      rw [generated_of_unloaded loads]
      rintro ⟨⟩
      exact handled cause loads
  | ok settings =>
      cases parsed : parse pattern with
      | error e =>
          rw [generated_of_refused loads parsed]
          nofun
      | ok t =>
          rw [generated_of_parsed loads parsed]
          split <;> nofun

end Given

/-- The outcomes of the three commands for one pattern agree as `CommandsAgree` says, whatever their other
    options are and wherever they run. If the keys of all layers are `Plain`, no panic comes of the
    settings. -/
theorem Outcome.commands_agree {pattern : String} {texts texts' texts'' : List String}
    {g g' g'' : Given} (listing : Invocation.ofArguments texts = .ok (.run .tokens pattern g))
    (checking : Invocation.ofArguments texts' = .ok (.run .check pattern g'))
    (generating : Invocation.ofArguments texts'' = .ok (.run .generate pattern g''))
    (s s' s'' : Surroundings) (entropy entropy' entropy'' : UInt64) :
    CommandsAgree pattern (g''.loaded s'') (g''.seed.getD entropy'') (ofArguments s entropy texts)
      (ofArguments s' entropy' texts') (ofArguments s'' entropy'' texts'') ∧
    (Loader.Plain g''.layers s'' → Handled (g''.loaded s'')) := by
  rw [ofArguments_eq listing, ofArguments_eq checking, ofArguments_eq generating]
  refine ⟨?_, Given.handled_loaded⟩
  exact {
    fails := by
      simp only [List.forall_mem_cons]
      exact ⟨fails_ended listed_ne_panic, fails_ended (checked_ne_panic g'.ast), List.forall_mem_nil _⟩
    tokens_iff := exitCode_ended.trans exists_listed_iff
    check_iff := exitCode_ended.trans (exists_checked_iff g'.ast)
    check_of_tokens := by
      intro failed
      cases tokens : tokenize pattern with
      | ok ls => exact (failed (exitCode_ended.mpr ⟨_, listed_of_tokens tokens⟩)).elim
      | error e =>
          have refused : parse pattern = .error (.lex e) := by rw [parse, tokens]
          simp only [Invocation.output, listed_of_refused tokens, checked_of_refused refused]
          exact ⟨exitCode_ended_error _, rfl⟩
    generate_fails := fun handled => fails_ended (Given.generated_ne_panic handled)
    unloaded := by
      intro e failed handled
      have reported : ∀ cause, e ≠ .badPlace cause := fun cause is => handled cause (is ▸ failed)
      simp only [Invocation.output, Given.generated_of_unloaded failed, ended_settings reported]
      exact ⟨rfl, rfl⟩
    panics := by
      intro cause failed
      simp only [Invocation.output, Given.generated_of_unloaded failed]
      exact ⟨rfl, rfl⟩
    generate_iff := by
      intro settings loads enough
      have enough' : g''.generated pattern s'' entropy'' ≠ .error (.processing (.fault .exhausted)) :=
        fun exhausted => enough (congrArg ended exhausted)
      exact exitCode_ended.trans (Given.exists_generated_iff loads enough')
    generate_of_check := by
      intro settings loads failed
      cases parsed : parse pattern with
      | ok t => exact (failed (exitCode_ended.mpr (checked_of_parsed parsed _))).elim
      | error e =>
          simp only [Invocation.output, checked_of_refused parsed,
            Given.generated_of_refused loads parsed]
          exact ⟨e.message, rfl, rfl, rfl⟩
    printed := by
      intro settings loads done
      obtain ⟨output, done⟩ := exitCode_ended.mp done
      obtain ⟨t, samples, parsed, drawn, rfl⟩ := Given.exists_samples_of_generated loads done
      refine ⟨⟨t, defaultExtra⟩, samples, ?_, drawn, ?_⟩
      · rw [Generator.ofPattern, parsed]
        rfl
      · rw [done]
        rfl }

theorem Outcome.commands_agree_letter :
    let s : Surroundings := ⟨[], []⟩
    let tokens := ofArguments s 0 ["tokens", "--", "a"]
    let check := ofArguments s 0 ["check", "--ast", "a"]
    let generate := ofArguments s 0 ["generate", "--seed", "7", "--count=2", "--", "a"]
    CommandsAgree "a" (.ok ⟨5, 2, .text⟩) 7 tokens check generate ∧
      generate = .success "a\na\n" := by
  intro s tokens check generate
  have checking : Invocation.ofArguments ["check", "--ast", "a"] =
      .ok (.run .check "a" { pattern := some "a", ast := true }) := by decide +kernel
  have generating : Invocation.ofArguments ["generate", "--seed", "7", "--count=2", "--", "a"] =
      .ok (.run .generate "a" { pattern := some "a", seed := some 7, count := some 2 }) := by
    decide +kernel
  have no_settings : Layer.entries s (.file localSettingsFile false) = .ok [] :=
    Layer.entries_of_no_files rfl localSettingsFile
  let given : Given := { pattern := some "a", seed := some 7, count := some 2 }
  have overridden : given.loader = .ok ⟨[.file localSettingsFile false, .environment],
      [([.key "output", .key "count"], .integer 2)]⟩ := rfl
  have loads : given.loaded s = .ok ⟨5, 2, .text⟩ := by
    simp only [Given.loaded, overridden, ok_then, Loader.build, Loader.tree, List.foldlM_cons,
      no_settings]
    decide +kernel
  obtain ⟨agree, -⟩ := commands_agree (Invocation.ofArguments_separated .tokens "a") checking generating
    s s s 0 0 0
  rw [loads] at agree
  have done : given.generated "a" s 0 = .ok "a\na\n" := by
    have parsed : parse "a" = .ok (treeOfToken (.char 'a')) := by decide +kernel
    have drawn : (⟨treeOfToken (.char 'a'), 5⟩ : Generator).samples 2 (given.seed.getD 0) =
        .ok ["a", "a"] := by decide +kernel
    simp only [Given.generated_of_parsed loads parsed, drawn]
    decide +kernel
  exact ⟨agree, (ofArguments_eq generating s 0).trans (by rw [Invocation.output, done]; rfl)⟩

/-- A variable with a place before the start of its list. -/
def misplaced : Surroundings := ⟨[], [("RXGEN_A[-1]", "1")]⟩

theorem Given.loaded_misplaced :
    ({ pattern := some "a" } : Given).loaded misplaced = .error (.badPlace .beforeStart) := by
  have supplied : Layer.entries misplaced .environment =
      .ok [("a[-1]", .scalar (.integer 1) (some Environment.origin))] := by cbv
  have set : Loader.defaults.setKey "a[-1]" (.scalar (.integer 1) (some Environment.origin)) =
      .error .beforeStart := by
    have key : PathStep.ofText? "a[-1]" = some [.key "a", .index (-1)] := by decide +kernel
    rw [SettingValue.setKey, key]
    rfl
  have layered : Loader.tree ⟨[.file localSettingsFile false, .environment], []⟩ misplaced =
      .error (.badPlace .beforeStart) := by
    have no_file := @Layer.entries_of_no_files misplaced rfl localSettingsFile
    simp only [Loader.tree, List.foldlM_cons, no_file, supplied, ok_then, Loader.setAll, List.foldlM_nil,
      pure, Except.pure, set, error_then]
  rw [loaded, loader_eq, ok_then, Loader.build]
  exact then_eq_error.mpr (.inl layered)

theorem Outcome.generate_panics :
    (∃ t, parse "a" = .ok t) ∧ ∃ generate, ofArguments misplaced 0 ["generate", "--", "a"] = generate ∧
      generate = .panic .beforeStart ∧ generate.exitCode = 101 ∧
      ¬"Error: ".toList <+: generate.standardError.toList := by
  have generating := Invocation.ofArguments_separated .generate "a"
  have panics : ofArguments misplaced 0 ["generate", "--", "a"] = .panic .beforeStart := by
    refine (ofArguments_eq generating misplaced 0).trans ?_
    rw [Invocation.output, Given.generated_of_unloaded Given.loaded_misplaced]
    rfl
  have parsed : parse "a" = .ok (treeOfToken (.char 'a')) := by decide +kernel
  exact ⟨⟨_, parsed⟩, _, panics, rfl, rfl, by decide +kernel⟩

end PatternSampler
