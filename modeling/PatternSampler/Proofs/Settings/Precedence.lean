import Mathlib
import PatternSampler.Proofs.Results
import PatternSampler.Proofs.Settings.Merging

/-! # Which setting counts

Settings are built from one value each: the last override of the setting, or else the value of the last
layer that has one, or else the default. What other layers say about a setting is never looked at.
-/

namespace PatternSampler

open SettingValue Assignment

/-! ## The settings in a tree -/

inductive Setting where
  | extra
  | count
  | format
  deriving DecidableEq

namespace Setting

def path : Setting → List PathStep
  | extra => [.key "generator", .key "unbounded_extra"]
  | count => [.key "output", .key "count"]
  | format => [.key "output", .key "format"]

def default : Setting → SettingValue
  | extra => .scalar (.integer defaultExtra.toNat) none
  | count => .scalar (.integer 1) none
  | format => .scalar (.string OutputFormat.text.name) none

theorem at?_defaults (setting : Setting) :
    Loader.defaults.at? setting.path = some setting.default := by
  cases setting <;> rfl

/-- A value can be taken for a setting. -/
def Fits : Setting → SettingValue → Prop
  | extra, v => ∃ extra, v.toWord32 "generator.unbounded_extra" = .ok extra
  | count, v => ∃ count, v.toNatural "output.count" = .ok count
  | format, v => ∃ format, v.toFormat = .ok format

end Setting

/-- The settings that are taken from these values. -/
def Settings.ofValues (value : Setting → SettingValue) : Except SettingsError Settings := do
  let extra ← (value .extra).toWord32 "generator.unbounded_extra"
  let count ← (value .count).toNatural "output.count"
  let format ← (value .format).toFormat
  return ⟨extra, count, format⟩

theorem Settings.ofValues_eq_ok {value : Setting → SettingValue} {settings : Settings} :
    ofValues value = .ok settings ↔
      (value .extra).toWord32 "generator.unbounded_extra" = .ok settings.extra ∧
        (value .count).toNatural "output.count" = .ok settings.count ∧
        (value .format).toFormat = .ok settings.format := by
  rw [ofValues]
  cases (value .extra).toWord32 "generator.unbounded_extra" with
  | error e => exact ⟨nofun, nofun⟩
  | ok extra =>
      cases (value .count).toNatural "output.count" with
      | error e => exact ⟨nofun, nofun⟩
      | ok count =>
          cases (value .format).toFormat with
          | error e => exact ⟨nofun, nofun⟩
          | ok format =>
              cases settings
              simp [Except.ok.injEq, pure, Except.pure, bind, Except.bind]

theorem Settings.exists_ofValues {value : Setting → SettingValue} :
    (∃ settings, ofValues value = .ok settings) ↔ ∀ setting : Setting, setting.Fits (value setting) := by
  constructor
  · rintro ⟨settings, taken⟩ setting
    obtain ⟨extra, count, format⟩ := ofValues_eq_ok.mp taken
    cases setting with
    | extra => exact ⟨_, extra⟩
    | count => exact ⟨_, count⟩
    | format => exact ⟨_, format⟩
  · intro fits
    obtain ⟨extra, extra_fits⟩ := fits .extra
    obtain ⟨count, count_fits⟩ := fits .count
    obtain ⟨format, format_fits⟩ := fits .format
    exact ⟨⟨extra, count, format⟩, ofValues_eq_ok.mpr ⟨extra_fits, count_fits, format_fits⟩⟩

namespace SettingValue

variable {root v x y : SettingValue} {name inner : String}

theorem sectionPart_of_child (found : v.child? name = some x) (sectionName path : String) (place : Nat) :
    v.sectionPart sectionName path name place = .ok (.found (path ++ "." ++ name) x) := by
  cases v with
  | table entries origin =>
      obtain ⟨e, there, rfl⟩ := Option.map_eq_some_iff.mp found
      rw [sectionPart, show entries.find? (·.1 = name) = some e from there]
  | scalar | list => cases found

theorem generatorSettings_of_child (found : v.child? "unbounded_extra" = some x) :
    v.generatorSettings = x.toWord32 "generator.unbounded_extra" := by
  rw [generatorSettings, sectionPart_of_child found]
  change (do required "unbounded_extra" (← some <$> x.toWord32 "generator.unbounded_extra")) = _
  cases x.toWord32 "generator.unbounded_extra" <;> rfl

theorem outputSettings_of_child (found : v.child? "count" = some x)
    (found' : v.child? "format" = some y) : v.outputSettings = do
      let count ← x.toNatural "output.count"
      let format ← y.toFormat
      return (count, format) := by
  rw [outputSettings, sectionPart_of_child found, sectionPart_of_child found']
  change (do
    let count ← some <$> x.toNatural "output.count"
    let format ← some <$> y.toFormat
    return (← required "count" count, ← required "format" format)) = _
  cases x.toNatural "output.count" with
  | error e => rfl
  | ok count => cases y.toFormat <;> rfl

theorem exists_section (held : root.at? [.key name, .key inner] = some x) :
    ∃ v, root.namedSection name = .ok v ∧ v.child? inner = some x := by
  obtain ⟨v, found, there⟩ := Option.bind_eq_some_iff.mp held
  refine ⟨v, ?_, by simpa [at?] using there⟩
  rw [namedSection, ← child?, found]
  rfl

theorem toSettings_of_extra (held : root.at? Setting.extra.path = some x) :
    root.toSettings = do
      let extra ← x.toWord32 "generator.unbounded_extra"
      let (count, format) ← outputSettings (← root.namedSection "output")
      return ⟨extra, count, format⟩ := by
  obtain ⟨generator, generator_is, extra⟩ := exists_section held
  rw [toSettings, generator_is, ok_then, generatorSettings_of_child extra]

/-- `toSettings` goes by the values at the paths of the three settings alone. -/
theorem toSettings_of_at? {value : Setting → SettingValue}
    (held : ∀ setting, root.at? setting.path = some (value setting)) :
    root.toSettings = Settings.ofValues value := by
  obtain ⟨output, output_is, count⟩ := exists_section (held .count)
  obtain ⟨output', same, format⟩ := exists_section (held .format)
  cases output_is.symm.trans same
  rw [toSettings_of_extra (held .extra), output_is, Settings.ofValues]
  cases (value .extra).toWord32 "generator.unbounded_extra" with
  | error e => rfl
  | ok extra =>
      simp only [ok_then, outputSettings_of_child count format]
      cases (value .count).toNatural "output.count" with
      | error e => rfl
      | ok count => cases (value .format).toFormat <;> rfl

end SettingValue

/-! ## Calls of a loader -/

namespace Loader

inductive Call where
  | source (layer : Layer)
  | override (key : String) (value : Scalar)

namespace Call

def apply (l : Loader) : Call → Except SettingsError Loader
  | source (.file name true) => .ok (l.withFile name)
  | source (.file name false) => .ok (l.withOptionalFile name)
  | source .environment => .ok l.withEnvironment
  | override key value => l.setOverride key value

def source? : Call → Option Layer
  | source layer => some layer
  | override _ _ => none

def override? : Call → Option (String × Scalar)
  | source _ => none
  | override key value => some (key, value)

end Call

def ofCalls (calls : List Call) : Except SettingsError Loader := calls.foldlM Call.apply empty

/-- Overrides after one more. -/
def addOverride (overrides : List (List PathStep × Scalar)) (o : String × Scalar) :
    Except SettingsError (List (List PathStep × Scalar)) :=
  (·.overrides) <$> (Loader.mk [] overrides).setOverride o.1 o.2

theorem foldlM_apply (calls : List Call) (l : Loader) : calls.foldlM Call.apply l =
    (⟨l.layers ++ calls.filterMap Call.source?, ·⟩) <$>
      (calls.filterMap Call.override?).foldlM addOverride l.overrides := by
  induction calls generalizing l with
  | nil => simp
  | cons c calls ih =>
      cases c with
      | source layer =>
          have applied : Call.apply l (.source layer) = .ok ⟨l.layers ++ [layer], l.overrides⟩ := by
            match layer with
            | .file _ true | .file _ false | .environment => rfl
          rw [List.foldlM_cons, applied]
          exact (ih _).trans (by rw [List.append_assoc]; rfl)
      | override key value =>
          have applied : Call.apply l (.override key value) =
              (⟨l.layers, ·⟩) <$> addOverride l.overrides (key, value) := by
            rw [Call.apply, setOverride, addOverride, setOverride]
            cases PathStep.ofText? key <;> rfl
          rw [List.foldlM_cons, applied]
          change _ = _ <$> List.foldlM addOverride l.overrides
            ((key, value) :: calls.filterMap Call.override?)
          rw [List.foldlM_cons]
          cases addOverride l.overrides (key, value) with
          | error e => rfl
          | ok overrides => exact ih ⟨l.layers, overrides⟩

/-- `ofCalls` collects sources and overrides independently. -/
theorem ofCalls_eq (calls : List Call) : ofCalls calls =
    (⟨calls.filterMap Call.source?, ·⟩) <$> (calls.filterMap Call.override?).foldlM addOverride [] :=
  foldlM_apply calls empty

end Loader

namespace Assignment

/-- What an override of a key sets, if the key is a path. -/
def ofText (o : String × Scalar) : List Assignment :=
  ((PathStep.ofText? o.1).map fun path => ofOverride (path, o.2)).toList

theorem last?_replaced (path : List PathStep) (os : List (List PathStep × Scalar))
    (o : List PathStep × Scalar) :
    last? path ((os.filter (·.1 ≠ o.1) ++ [o]).map ofOverride) =
      last? path ((os ++ [o]).map ofOverride) := by
  rw [List.map_append, List.map_append, last?_append, last?_append, List.map_singleton,
    last?_singleton]
  split
  · rfl
  · rename_i elsewhere
    -- On another path nothing was dropped.
    have spared : ∀ o' : List PathStep × Scalar, (o'.1 ≠ o.1 ∧ (ofOverride o').path = path) ↔
        (ofOverride o').path = path := by
      refine fun o' => and_iff_right_of_imp fun there same => elsewhere ?_
      rwa [ofOverride, same] at there
    simp [last?, ← List.map_reverse, ← List.filter_reverse, List.find?_map, List.find?_filter,
      Function.comp_def, spared]

theorem last?_flatMap {α : Type} {sets : α → List Assignment} {path : List PathStep} {xs : List α}
    (once : ∀ x ∈ xs, ((sets x).filter (·.path = path)).length ≤ 1) :
    last? path (xs.flatMap sets) =
      xs.reverse.findSome? fun x => ((sets x).find? (·.path = path)).map (·.value) := by
  induction xs with
  | nil => rfl
  | cons x xs ih =>
      obtain ⟨first, others⟩ := List.forall_mem_cons.mp once
      rw [List.flatMap_cons, last?_append, ih others, last?_of_once first, List.reverse_cons,
        List.findSome?_append]
      simp

instance (a : Assignment) : Decidable a.Named :=
  inferInstanceAs (Decidable (∀ step ∈ a.path, step.isKey))

/-- Scalars for some of the settings, one for each at most, and things beside the settings. -/
structure Proper (as : List Assignment) : Prop where
  named : ∀ a ∈ as, a.Named
  orderly : ∀ setting : Setting, ∀ a ∈ as, a.Orderly setting.path
  once : ∀ setting : Setting, (as.filter (·.path = setting.path)).length ≤ 1

theorem proper_nil : Proper [] :=
  ⟨List.forall_mem_nil _, fun _ => List.forall_mem_nil _, fun _ => Nat.zero_le 1⟩

end Assignment

/-- What is given for a setting. -/
def Setting.given? (as : List Assignment) (setting : Setting) : Option SettingValue :=
  (as.find? (·.path = setting.path)).map (·.value)

namespace Loader

/-- `addOverride` drops only what `last?` passes over. -/
theorem exists_overrides {os : List (String × Scalar)} (proper : ∀ o ∈ os, Proper (ofText o))
    (paths : ∀ o ∈ os, ∃ path, PathStep.ofText? o.1 = some path)
    (before : List (List PathStep × Scalar))
    (ready : ∀ o ∈ before, o.1 ≠ [] ∧ Proper [ofOverride o]) :
    ∃ after, os.foldlM addOverride before = .ok after ∧
      (∀ o ∈ after, o.1 ≠ [] ∧ Proper [ofOverride o]) ∧
      ∀ path, last? path (after.map ofOverride) =
        last? path (before.map ofOverride ++ os.flatMap ofText) := by
  induction os generalizing before with
  | nil => exact ⟨before, rfl, ready, fun path => by simp⟩
  | cons o os ih =>
      obtain ⟨proper_first, proper_others⟩ := List.forall_mem_cons.mp proper
      obtain ⟨⟨steps, read⟩, paths_others⟩ := List.forall_mem_cons.mp paths
      have text : ofText o = [ofOverride (steps, o.2)] := by
        rw [ofText, read]
        rfl
      have replaced : ∀ o' ∈ before.filter (·.1 ≠ steps) ++ [(steps, o.2)],
          o'.1 ≠ [] ∧ Proper [ofOverride o'] := by
        refine List.forall_mem_append.mpr ⟨fun o' member => ready o' (List.mem_filter.mp member).1, ?_⟩
        exact List.forall_mem_singleton.mpr ⟨PathStep.ofText?_ne_nil read, text ▸ proper_first⟩
      obtain ⟨after, done, ready_after, same⟩ := ih proper_others paths_others _ replaced
      refine ⟨after, ?_, ready_after, ?_⟩
      · rw [List.foldlM_cons, addOverride, setOverride, read]
        exact done
      · intro path
        rw [same, last?_append, last?_replaced path before (steps, o.2), ← last?_append,
          List.flatMap_cons, text]
        simp

namespace Call

def assignments (s : Surroundings) : Call → List Assignment
  | source layer => layer.assignments s
  | override key value => ofText (key, value)

theorem mem_sources {calls : List Call} {layer : Layer} (member : layer ∈ calls.filterMap source?) :
    source layer ∈ calls := by
  obtain ⟨c, inside, is⟩ := List.mem_filterMap.mp member
  cases c <;> cases is
  exact inside

theorem mem_overrides {calls : List Call} {o : String × Scalar}
    (member : o ∈ calls.filterMap override?) : override o.1 o.2 ∈ calls := by
  obtain ⟨c, inside, is⟩ := List.mem_filterMap.mp member
  cases c <;> cases is
  exact inside

/-- The layer can be read, or the key is a path. -/
def Made (s : Surroundings) : Call → Prop
  | source layer => ∃ entries, layer.entries s = .ok entries
  | override key _ => ∃ path, PathStep.ofText? key = some path

end Call

/-- The value that counts for a setting. -/
def winner (s : Surroundings) (calls : List Call) (setting : Setting) : SettingValue :=
  let overriding := (calls.filterMap Call.override?).reverse.findSome? fun o =>
    setting.given? (ofText o)
  let layered := (calls.filterMap Call.source?).reverse.findSome? fun layer =>
    setting.given? (layer.assignments s)
  (overriding.or layered).getD setting.default

variable {s : Surroundings} {calls : List Call}

theorem exists_winning_tree (made : ∀ c ∈ calls, c.Made s)
    (proper : ∀ c ∈ calls, Proper (c.assignments s)) :
    ∃ l, ofCalls calls = .ok l ∧ ∃ root, l.tree s = .ok root ∧
      ∀ setting : Setting, root.at? setting.path = some (winner s calls setting) := by
  have sources : ∀ layer ∈ calls.filterMap Call.source?,
      (∃ entries, layer.entries s = .ok entries) ∧ Proper (layer.assignments s) :=
    fun layer member => ⟨made _ (Call.mem_sources member), proper _ (Call.mem_sources member)⟩
  have overriding : ∀ o ∈ calls.filterMap Call.override?,
      (∃ path, PathStep.ofText? o.1 = some path) ∧ Proper (ofText o) :=
    fun o member => ⟨made _ (Call.mem_overrides member), proper _ (Call.mem_overrides member)⟩
  obtain ⟨overrides, left, ready, same⟩ := exists_overrides
    (fun o member => (overriding o member).2) (fun o member => (overriding o member).1) [] nofun
  let l : Loader := ⟨calls.filterMap Call.source?, overrides⟩
  obtain ⟨root, built, after⟩ := exists_tree (l := l) (fun layer member => (sources layer member).1)
    (fun layer member => (sources layer member).2.named)
    fun o member => ⟨(ready o member).1, (ready o member).2.named _ List.mem_cons_self⟩
  refine ⟨l, by rw [ofCalls_eq, left]; rfl, root, built, fun setting => ?_⟩
  rw [after setting.path setting.default ?_ setting.at?_defaults, last?_append, same, List.map_nil,
    List.nil_append, last?_flatMap fun layer member => (sources layer member).2.once setting,
    last?_flatMap fun o member => (overriding o member).2.once setting]
  · rfl
  · refine List.forall_mem_append.mpr ⟨?_, ?_⟩
    · intro a member
      obtain ⟨layer, inside, member⟩ := List.mem_flatMap.mp member
      exact (sources layer inside).2.orderly setting a member
    · refine List.forall_mem_map.mpr fun o member => ?_
      exact (ready o member).2.orderly setting _ List.mem_cons_self

/-- A call that gives nothing for a setting can be left out for its `winner`. -/
theorem winner_of_silent {before after : List Call} {c : Call} {setting : Setting}
    (silent : setting.given? (c.assignments s) = none) :
    winner s (before ++ c :: after) setting = winner s (before ++ after) setting := by
  cases c with
  | source layer =>
      have no_override : (Call.source layer :: after).filterMap Call.override? =
          after.filterMap Call.override? := rfl
      have silent : setting.given? (layer.assignments s) = none := silent
      simp [winner, no_override, Call.source?, List.findSome?_append, silent]
  | override key value =>
      have no_source : (Call.override key value :: after).filterMap Call.source? =
          after.filterMap Call.source? := rfl
      have silent : setting.given? (ofText (key, value)) = none := silent
      simp [winner, no_source, Call.override?, List.findSome?_append, silent]

theorem given?_of_absent {name : String} (absent : s.file? name = none) (setting : Setting) :
    setting.given? ((Call.source (.file name false)).assignments s) = none := by
  rw [Call.assignments, Layer.assignments, Layer.entries, absent]
  rfl

/-- `Loader.build` takes each setting from its `winner`, the last override of it, or else the last source
    that has it, or else the default, and succeeds exactly if each winner `Fits`. Overrides may be made
    before or after the sources, and calls that are silent about a setting do not matter to it, such as an
    optional file that is missing. -/
theorem build_of_calls (made : ∀ c ∈ calls, c.Made s)
    (proper : ∀ c ∈ calls, Proper (c.assignments s)) :
    (∃ l, ofCalls calls = .ok l ∧ l.build s = Settings.ofValues (winner s calls) ∧
      ((∃ settings, l.build s = .ok settings) ↔
        ∀ setting : Setting, setting.Fits (winner s calls setting)) ∧
      ∀ calls' : List Call, calls'.filterMap Call.source? = calls.filterMap Call.source? →
        calls'.filterMap Call.override? = calls.filterMap Call.override? → ofCalls calls' = .ok l) ∧
    (∀ (before after : List Call) (c : Call) (setting : Setting), calls = before ++ c :: after →
      setting.given? (c.assignments s) = none →
        winner s calls setting = winner s (before ++ after) setting) ∧
    ∀ name, s.file? name = none → ∀ setting : Setting,
      setting.given? ((Call.source (.file name false)).assignments s) = none := by
  obtain ⟨l, done, root, built, held⟩ := exists_winning_tree made proper
  have result : l.build s = Settings.ofValues (winner s calls) := by
    rw [build, built]
    exact toSettings_of_at? held
  refine ⟨⟨l, done, result, ?_, ?_⟩, ?_, fun name => given?_of_absent⟩
  · rw [result]
    exact Settings.exists_ofValues
  · intro calls' sources overrides
    rw [ofCalls_eq, sources, overrides, ← ofCalls_eq, done]
  · rintro before after c setting rfl silent
    exact winner_of_silent silent

/-- A file with a format, and with a count that is none. -/
def unusableCount : Surroundings :=
  ⟨[("a", "[Output]\nFORMAT = \"json\"\ncount = \"many\"\n")], []⟩

theorem assignments_unusableCount : Layer.assignments unusableCount (.file "a" true) =
    [⟨[.key "output"], .table [] (some "a")⟩,
      ⟨[.key "output", .key "format"], .scalar (.string "json") (some "a")⟩,
      ⟨[.key "output", .key "count"], .scalar (.string "many") (some "a")⟩] := by
  have parts : "a".splitOn "/" = ["a"] := by cbv
  have there : unusableCount.file? "a" =
      some ("a", "[Output]\nFORMAT = \"json\"\ncount = \"many\"\n") := by
    simp only [Surroundings.file?, Surroundings.candidates, Surroundings.nameParts,
      Surroundings.plainName, Surroundings.isDirectoryName, parts]
    decide +kernel
  have read : Toml.topSettings? (some "a") "[Output]\nFORMAT = \"json\"\ncount = \"many\"\n" =
      some [("Output", .table [("FORMAT", .scalar (.string "json") (some "a")),
        ("count", .scalar (.string "many") (some "a"))] (some "a"))] := by cbv
  simp only [Layer.assignments, Layer.entries, there, read]
  rfl

/-- The count in the file is of no use, but overridden. -/
theorem build_of_calls_unusableCount :
    let calls : List Call := [.override "output.count" (.integer 3), .source (.file "a" true),
      .source .environment, .override "Generator.Unbounded_Extra" (.string "2")]
    ∃ l, ofCalls calls = .ok l ∧ l.build unusableCount = .ok ⟨2, 3, .json⟩ := by
  intro calls
  have made : ∀ c ∈ calls, c.Made unusableCount := by
    simp only [calls, List.forall_mem_cons, Call.Made]
    refine ⟨⟨_, rfl⟩, ?_, ⟨_, rfl⟩, ⟨_, rfl⟩, List.forall_mem_nil _⟩
    cases read : Layer.entries unusableCount (.file "a" true) with
    | ok entries => exact ⟨entries, rfl⟩
    | error e =>
        have sets := assignments_unusableCount
        rw [Layer.assignments, read] at sets
        cases sets
  have proper : ∀ c ∈ calls, Proper (c.assignments unusableCount) := by
    simp only [calls, List.forall_mem_cons, Call.assignments, assignments_unusableCount]
    refine ⟨⟨?_, ?_, ?_⟩, ⟨?_, ?_, ?_⟩, proper_nil, ⟨?_, ?_, ?_⟩, List.forall_mem_nil _⟩
    all_goals first | decide +kernel | (intro setting; cases setting <;> decide +kernel)
  obtain ⟨⟨l, done, built, -⟩, -⟩ := build_of_calls made proper
  have extra : winner unusableCount calls .extra = .scalar (.string "2") none := rfl
  have count : winner unusableCount calls .count = .scalar (.integer 3) none := rfl
  have format : winner unusableCount calls .format = .scalar (.string "json") (some "a") := by
    simp only [winner, calls, List.filterMap_cons, Call.source?, Call.override?, List.filterMap_nil,
      List.reverse_cons, List.reverse_nil, List.nil_append, List.cons_append, List.findSome?_cons,
      assignments_unusableCount]
    rfl
  refine ⟨l, done, built.trans ?_⟩
  rw [Settings.ofValues, extra, count, format]
  decide +kernel

end Loader

end PatternSampler
