import Mathlib
import PatternSampler.Proofs.CommandLine.Agreement
import PatternSampler.Proofs.Text.Lines

/-! # Generations as lines

A generation in text format prints its samples as lines. The format itself only puts line feeds between
samples, and cannot tell no sample from an empty one; the line feed at the end, which is left out for no
samples, makes the difference.
-/

namespace PatternSampler

open Text

theorem SampleBatch.printed_text (b : SampleBatch) : b.printed .text = written b.samples := by
  by_cases empty : b.samples = []
  · rw [printed, if_pos ⟨rfl, empty⟩, empty]
    rfl
  · rw [printed, if_neg fun none => empty none.2]
    exact intercalate_append_feed empty

/-- In text format the `standardOutput` is each sample with a line feed, and empty exactly if there are no
    samples. `lines` gives back samples without line feeds, empty ones too. -/
theorem Outcome.lines_standardOutput {pattern : String} {texts : List String} {g : Given}
    {s : Surroundings} {entropy : UInt64} {settings : Settings}
    (asked : Invocation.ofArguments texts = .ok (.run .generate pattern g))
    (loads : g.loaded s = .ok settings) (plain : settings.format = .text)
    (succeeds : (ofArguments s entropy texts).exitCode = 0) :
    ∃ generator samples, Generator.ofPattern pattern = .ok generator ∧
      (generator.withExtra settings.extra).samples settings.count (g.seed.getD entropy) = .ok samples ∧
      samples.length = settings.count ∧
      (ofArguments s entropy texts).standardOutput = String.join (samples.map (· ++ "\n")) ∧
      ((ofArguments s entropy texts).standardOutput = "" ↔ samples = []) ∧
      ((∀ sample ∈ samples, '\n' ∉ sample.toList) →
        lines (ofArguments s entropy texts).standardOutput = samples) := by
  rw [ofArguments_eq asked] at succeeds ⊢
  obtain ⟨output, done⟩ := exitCode_ended.mp succeeds
  obtain ⟨t, samples, parsed, drawn, rfl⟩ := Given.exists_samples_of_generated loads done
  have printed : (ended (Invocation.output s entropy (.run .generate pattern g))).standardOutput =
      written samples := by
    rw [done, plain]
    exact SampleBatch.printed_text _
  refine ⟨⟨t, defaultExtra⟩, samples, ?_, drawn, Generator.length_samples drawn, ?_⟩
  · rw [Generator.ofPattern, parsed]
    rfl
  · rw [printed]
    exact ⟨rfl, written_eq_empty_iff, lines_written⟩

theorem Outcome.lines_standardOutput_empty :
    let o := ofArguments ⟨[], []⟩ 0 ["generate", "--count=2", ""]
    o.standardOutput = "\n\n" ∧ lines o.standardOutput = ["", ""] := by
  let s : Surroundings := ⟨[], []⟩
  let given : Given := { pattern := some "", count := some 2 }
  intro o
  have asked : Invocation.ofArguments ["generate", "--count=2", ""] = .ok (.run .generate "" given) := by
    decide +kernel
  have no_settings : Layer.entries s (.file localSettingsFile false) = .ok [] :=
    Layer.entries_of_no_files rfl localSettingsFile
  have overridden : given.loader = .ok ⟨[.file localSettingsFile false, .environment],
      [([.key "output", .key "count"], .integer 2)]⟩ := rfl
  have loads : given.loaded s = .ok ⟨5, 2, .text⟩ := by
    simp only [Given.loaded, overridden, ok_then, Loader.build, Loader.tree, List.foldlM_cons,
      no_settings]
    decide +kernel
  have parsed : parse "" = .ok (Tree.framed []) := by decide +kernel
  have drawn : (⟨Tree.framed [], 5⟩ : Generator).samples 2 (given.seed.getD 0) = .ok ["", ""] := by
    decide +kernel
  have made : Generator.ofPattern "" = .ok ⟨Tree.framed [], 5⟩ := by
    rw [Generator.ofPattern, parsed]
    rfl
  have done : given.generated "" s 0 = .ok "\n\n" := by
    simp only [Given.generated_of_parsed loads parsed, drawn]
    rfl
  have succeeds : o.exitCode = 0 := (congrArg exitCode (ofArguments_eq asked s 0)).trans
    (exitCode_ended.mpr ⟨_, done⟩)
  obtain ⟨generator, samples, made', drawn', -, output, -, back⟩ :=
    lines_standardOutput asked loads rfl succeeds
  cases made.symm.trans made'
  cases drawn.symm.trans drawn'
  exact ⟨output, back (by simp)⟩

end PatternSampler
