import Mathlib
import PatternSampler.Settings.Loader

/-! # What is left of settings

A value that is put into a tree sets whatever in it is no table, and tables that are not there yet are
made. So a tree is known by what was set where, one after the other: a path holds what was last set on
it, as long as nothing but scalars is set there, nothing below it, and above it only tables.
-/

namespace PatternSampler

namespace PathStep

/-- Keys are compared in lower case. -/
def lowercase : PathStep → PathStep
  | key name => key (Text.lowercase name)
  | index place => index place

def isKey : PathStep → Bool
  | key _ => true
  | index _ => false

end PathStep

namespace SettingValue

def child? (name : String) (v : SettingValue) : Option SettingValue :=
  (v.entries.find? (·.1 = name)).map (·.2)

/-- What is in a tree at the end of a path whose names are in lower case. -/
def at? : SettingValue → List PathStep → Option SettingValue
  | v, [] => some v
  | v, .key name :: steps => (v.child? name).bind fun child => child.at? steps
  | _, .index _ :: _ => none

def isScalar : SettingValue → Bool
  | scalar _ _ => true
  | _ => false

def isEmptyTable : SettingValue → Bool
  | table [] _ => true
  | _ => false

end SettingValue

/-- A value that is set at the end of a path. -/
structure Assignment where
  path : List PathStep
  value : SettingValue

namespace Assignment

def below (steps : List PathStep) (a : Assignment) : Assignment := ⟨steps ++ a.path, a.value⟩

/-- Something is set elsewhere: not at the path, not below it, and above it only a table. -/
def Spares (path : List PathStep) (a : Assignment) : Prop :=
  ¬path <+: a.path ∧ (a.path <+: path → a.value.isEmptyTable)

/-- A scalar is set at the path, or something elsewhere. -/
def Orderly (path : List PathStep) (a : Assignment) : Prop :=
  (a.path = path ∧ a.value.isScalar) ∨ a.Spares path

instance (path : List PathStep) (a : Assignment) : Decidable (a.Orderly path) :=
  inferInstanceAs (Decidable ((_ ∧ _) ∨ (¬_ ∧ (_ → _))))

/-- What is last set at a path. -/
def last? (path : List PathStep) (as : List Assignment) : Option SettingValue :=
  (as.reverse.find? (·.path = path)).map (·.value)

variable {path : List PathStep} {a : Assignment} {as bs : List Assignment}

theorem last?_append : last? path (as ++ bs) = (last? path bs).or (last? path as) := by
  rw [last?, List.reverse_append, List.find?_append, Option.map_or]
  rfl

theorem last?_singleton : last? path [a] = if a.path = path then some a.value else none := by
  by_cases there : a.path = path <;> simp [last?, there]

theorem last?_eq_none : last? path as = none ↔ ∀ a ∈ as, a.path ≠ path := by
  simp [last?]

theorem last?_of_once (once : (as.filter (·.path = path)).length ≤ 1) :
    last? path as = (as.find? (·.path = path)).map (·.value) := by
  have same : ∀ found : List Assignment, found.length ≤ 1 → found.reverse = found
    | [], _ | [_], _ => rfl
    | _ :: _ :: _, more => by simp at more
  rw [last?, ← List.head?_filter, List.filter_reverse, same _ once, List.head?_filter]

theorem orderly_below {step : PathStep} :
    (a.below [step]).Orderly (step :: path) ↔ a.Orderly path := by
  simp [Orderly, Spares, below]

theorem last?_below {step : PathStep} :
    last? (step :: path) (as.map (below [step])) = last? path as := by
  rw [last?, ← List.map_reverse, List.find?_map, Option.map_map]
  simp only [Function.comp_def, below, List.singleton_append, List.cons.injEq, true_and]
  rfl

end Assignment

namespace SettingValue

open Assignment

mutual

/-- What is set when a value is put into a tree. -/
def assignments : SettingValue → List Assignment
  | table entries origin => ⟨[], table [] origin⟩ :: assignmentsIn entries
  | v => [⟨[], v⟩]

def assignmentsIn : List (String × SettingValue) → List Assignment
  | [] => []
  | (key, v) :: es =>
    v.assignments.map (below [.key (Text.lowercase key)]) ++ assignmentsIn es

end

theorem exists_assignment (v : SettingValue) : ∃ a, a ∈ v.assignments := by
  cases v <;> exact ⟨_, List.mem_cons_self⟩

/-- `v'` is `v` after something was set: it holds what was last set, or else what `v` holds. -/
def After (as : List Assignment) (v v' : SettingValue) : Prop :=
  ∀ (path : List PathStep) (old : SettingValue), (∀ a ∈ as, a.Orderly path) →
    v.at? path = some old → v'.at? path = some ((last? path as).getD old)

variable {as bs : List Assignment} {v v' v'' : SettingValue} {key name : String}
  {f : Option SettingValue → SettingValue}

theorem After.refl (v : SettingValue) : After [] v v := fun _ _ _ held => held

theorem After.trans (first : After as v v') (second : After bs v' v'') : After (as ++ bs) v v'' := by
  intro path old orderly held
  obtain ⟨orderly_first, orderly_second⟩ := List.forall_mem_append.mp orderly
  rw [second path _ orderly_second (first path old orderly_first held), last?_append]
  cases last? path bs <;> rfl

/-! ## Entries -/

theorem find?_alterEntry (es : List (String × SettingValue)) :
    ((alterEntry key f es).find? (·.1 = name)).map (·.2) =
      if name = key then some (f ((es.find? (·.1 = name)).map (·.2)))
      else (es.find? (·.1 = name)).map (·.2) := by
  induction es with
  | nil => by_cases same : name = key <;> simp [alterEntry, same, eq_comm]
  | cons e es ih =>
      obtain ⟨k, v⟩ := e
      by_cases here : k = key
      · subst here
        by_cases same : k = name
        · simp [alterEntry, same]
        · simp [alterEntry, same, Ne.symm same]
      · by_cases first : k = name
        · subst first
          simp [alterEntry, here]
        · simpa [alterEntry, here, first] using ih

theorem child?_alterKey : (v.alterKey key f).child? name =
    if name = Text.lowercase key then some (f (v.child? name)) else v.child? name :=
  find?_alterEntry v.entries

theorem After.alterKey (some_set : ∃ a, a ∈ as)
    (entry : ∀ old, v.child? (Text.lowercase key) = some old → After as old (f (some old))) :
    After (as.map (below [.key (Text.lowercase key)])) v (v.alterKey key f) := by
  intro path old orderly held
  cases path with
  | nil =>
      obtain ⟨a, member⟩ := some_set
      rcases orderly _ (List.mem_map_of_mem member) with ⟨there, -⟩ | ⟨clear, -⟩
      · cases there
      · exact (clear List.nil_prefix).elim
  | cons step steps =>
      cases step with
      | index place => cases held
      | key name =>
          rw [at?] at held ⊢
          rw [child?_alterKey]
          by_cases same : name = Text.lowercase key
          · subst same
            obtain ⟨child, found, held⟩ := Option.bind_eq_some_iff.mp held
            have inside : ∀ a ∈ as, a.Orderly steps := fun a member =>
              orderly_below.mp (orderly _ (List.mem_map_of_mem member))
            have last_below : last? (.key (Text.lowercase key) :: steps)
                (as.map (below [.key (Text.lowercase key)])) = last? steps as := last?_below
            rw [if_pos rfl, found, last_below]
            exact entry child found steps old inside held
          · have elsewhere : last? (.key name :: steps) (as.map (below [.key (Text.lowercase key)])) =
                none := by
              simp [last?_eq_none, below, Ne.symm same]
            rw [if_neg same, elsewhere]
            exact held

mutual

/-- `mergeInto` sets the `assignments` of the value that is merged. -/
theorem after_mergeInto (v o : SettingValue) : After v.assignments o (mergeInto (some o) v) := by
  cases v with
  | table entries origin =>
      rw [assignments]
      have made : After [⟨[], table [] origin⟩] o o := by
        intro path old orderly held
        rcases orderly _ List.mem_cons_self with ⟨-, scalar⟩ | ⟨clear, -⟩
        · cases scalar
        · have elsewhere : path ≠ [] := fun top => clear (top ▸ List.nil_prefix)
          rw [last?_singleton, if_neg elsewhere.symm]
          exact held
      exact made.trans (after_mergeEntries o entries)
  | scalar | list =>
      intro path old orderly held
      rcases orderly _ List.mem_cons_self with ⟨rfl, -⟩ | ⟨-, table⟩
      · rfl
      · cases table List.nil_prefix

theorem after_mergeEntries (target : SettingValue) (es : List (String × SettingValue)) :
    After (assignmentsIn es) target (mergeEntries target es) := by
  cases es with
  | nil => exact .refl target
  | cons e es =>
      obtain ⟨key, v⟩ := e
      exact (After.alterKey v.exists_assignment fun old _ => after_mergeInto v old).trans
        (after_mergeEntries _ es)

end

/-! ## Paths -/

variable {steps : List PathStep}

/-- `setAt` along names succeeds and sets the value below them. -/
theorem exists_setAt (names : ∀ step ∈ steps, step.isKey) (nonempty : steps ≠ [])
    (root value : SettingValue) : ∃ root', root.setAt steps value = .ok root' ∧
      After (value.assignments.map (below (steps.map (·.lowercase)))) root root' := by
  induction steps generalizing root with
  | nil => exact (nonempty rfl).elim
  | cons step steps ih =>
      obtain ⟨first, others⟩ := List.forall_mem_cons.mp names
      cases step with
      | index place => cases first
      | key name =>
          cases steps with
          | nil =>
              exact ⟨_, rfl, .alterKey value.exists_assignment fun old _ => after_mergeInto value old⟩
          | cons step steps =>
              obtain ⟨changed, set, after⟩ :=
                ih others (List.cons_ne_nil _ _) ((root.entry? name).getD nothing)
              have some_set : ∃ a, a ∈ value.assignments.map (below ((step :: steps).map (·.lowercase))) :=
                value.exists_assignment.imp' _ fun _ => List.mem_map_of_mem
              have under : After _ root (root.alterKey name fun _ => changed) :=
                .alterKey some_set fun old found => by
                  have there : (root.entry? name).getD nothing = old := by
                    rw [show root.entry? name = some old from found]
                    rfl
                  exact there ▸ after
              refine ⟨root.alterKey name fun _ => changed, ?_, ?_⟩
              · rw [setAt, set]
                · rfl
                · simp
              · rw [List.map_map] at under
                exact under

end SettingValue

/-! ## Layers and overrides -/

open SettingValue

namespace Assignment

def Named (a : Assignment) : Prop := ∀ step ∈ a.path, step.isKey

/-- What an entry at the top of a layer sets. -/
def ofEntry (e : String × SettingValue) : List Assignment :=
  e.2.assignments.map (below (((PathStep.ofText? e.1).getD [.key e.1]).map (·.lowercase)))

def ofOverride (o : List PathStep × Scalar) : Assignment := ⟨o.1.map (·.lowercase), .scalar o.2 none⟩

end Assignment

open Assignment

def Layer.assignments (s : Surroundings) (layer : Layer) : List Assignment :=
  match layer.entries s with
  | .ok entries => entries.flatMap ofEntry
  | .error _ => []

theorem Layer.entries_of_no_files {s : Surroundings} (no_files : s.files = []) (name : String) :
    Layer.entries s (.file name false) = .ok [] := by
  have absent : s.file? name = none := by simp [Surroundings.file?, no_files]
  rw [entries, absent]
  rfl

theorem PathStep.ofText?_ne_nil {key : String} {path : List PathStep}
    (read : PathStep.ofText? key = some path) : path ≠ [] := by
  rintro rfl
  simp [ofText?] at read

theorem PathStep.ofKey_ne_nil (key : String) : (PathStep.ofText? key).getD [.key key] ≠ [] := by
  cases read : PathStep.ofText? key with
  | none => exact List.cons_ne_nil _ _
  | some path => exact ofText?_ne_nil read

theorem PathStep.isKey_lowercase (step : PathStep) : step.lowercase.isKey = step.isKey := by
  cases step <;> rfl

/-! ## One after the other -/

section

variable {ε α : Type} {set : SettingValue → α → Except ε SettingValue} {sets : α → List Assignment}

theorem exists_foldlM {xs : List α}
    (each : ∀ x ∈ xs, ∀ root, ∃ root', set root x = .ok root' ∧ After (sets x) root root')
    (root : SettingValue) :
    ∃ root', xs.foldlM set root = .ok root' ∧ After (xs.flatMap sets) root root' := by
  induction xs generalizing root with
  | nil => exact ⟨root, rfl, .refl root⟩
  | cons x xs ih =>
      obtain ⟨first, others⟩ := List.forall_mem_cons.mp each
      obtain ⟨between, set_first, after_first⟩ := first root
      obtain ⟨root', set_others, after_others⟩ := ih others between
      refine ⟨root', ?_, after_first.trans after_others⟩
      rw [List.foldlM_cons, set_first]
      exact set_others

theorem exists_setAll {set : SettingValue → α → Except PlaceFault SettingValue} {xs : List α}
    (each : ∀ x ∈ xs, ∀ root, ∃ root', set root x = .ok root' ∧ After (sets x) root root')
    (root : SettingValue) :
    ∃ root', Loader.setAll set root xs = .ok root' ∧ After (xs.flatMap sets) root root' := by
  obtain ⟨root', done, after⟩ := exists_foldlM each root
  exact ⟨root', by rw [Loader.setAll, done], after⟩

end

theorem isKey_of_named {steps : List PathStep} {v : SettingValue}
    (named : ∀ a ∈ v.assignments.map (below (steps.map (·.lowercase))), a.Named) :
    ∀ step ∈ steps, step.isKey := by
  intro step member
  obtain ⟨a, inside⟩ := v.exists_assignment
  rw [← PathStep.isKey_lowercase]
  exact named _ (List.mem_map_of_mem inside) _ (List.mem_append_left _ (List.mem_map_of_mem member))

theorem exists_setKey {key : String} {v : SettingValue} (named : ∀ a ∈ ofEntry (key, v), a.Named)
    (root : SettingValue) :
    ∃ root', root.setKey key v = .ok root' ∧ After (ofEntry (key, v)) root root' := by
  exact exists_setAt (isKey_of_named named) (PathStep.ofKey_ne_nil key) root v

theorem exists_override {o : List PathStep × Scalar} (named : o.1 ≠ [] ∧ (ofOverride o).Named)
    (root : SettingValue) :
    ∃ root', root.setAt o.1 (.scalar o.2 none) = .ok root' ∧ After [ofOverride o] root root' := by
  obtain ⟨nonempty, names⟩ := named
  have keys : ∀ step ∈ o.1, step.isKey := fun step inside =>
    PathStep.isKey_lowercase step ▸ names _ (List.mem_map_of_mem inside)
  obtain ⟨root', set, after⟩ := exists_setAt keys nonempty root (.scalar o.2 none)
  exact ⟨root', set, by simpa [SettingValue.assignments, below, ofOverride] using after⟩

namespace Loader

variable {s : Surroundings}

theorem exists_layer {layer : Layer} {entries : List (String × SettingValue)}
    (read : layer.entries s = .ok entries) (named : ∀ a ∈ layer.assignments s, a.Named)
    (root : SettingValue) :
    ∃ root', setAll (fun root (key, v) => root.setKey key v) root entries = .ok root' ∧
      After (layer.assignments s) root root' := by
  simp only [Layer.assignments, read] at named ⊢
  exact exists_setAll (fun e inside => exists_setKey fun a member =>
    named a (List.mem_flatMap_of_mem inside member)) root

theorem exists_overriding {os : List (List PathStep × Scalar)}
    (named : ∀ o ∈ os, o.1 ≠ [] ∧ (ofOverride o).Named) (root : SettingValue) :
    ∃ root', setAll (fun root (path, v) => root.setAt path (.scalar v none)) root os = .ok root' ∧
      After (os.map ofOverride) root root' := by
  rw [List.map_eq_flatMap]
  exact exists_setAll (fun o member => exists_override (named o member)) root

/-- `Loader.tree` sets the `assignments` of all layers and then the overrides in order over the defaults,
    where keys are made of names. -/
theorem exists_tree {l : Loader} (readable : ∀ layer ∈ l.layers, ∃ entries, layer.entries s = .ok entries)
    (named : ∀ layer ∈ l.layers, ∀ a ∈ layer.assignments s, a.Named)
    (named_overrides : ∀ o ∈ l.overrides, o.1 ≠ [] ∧ (ofOverride o).Named) :
    ∃ root, l.tree s = .ok root ∧
      After (l.layers.flatMap (·.assignments s) ++ l.overrides.map ofOverride) defaults root := by
  have each_layer : ∀ layer ∈ l.layers, ∀ root, ∃ root',
      (do setAll (fun root (key, v) => root.setKey key v) root (← layer.entries s)) = .ok root' ∧
        After (layer.assignments s) root root' := by
    intro layer member root
    obtain ⟨entries, read⟩ := readable layer member
    rw [read]
    exact exists_layer read (named layer member) root
  obtain ⟨between, set_layers, after_layers⟩ := exists_foldlM each_layer defaults
  obtain ⟨root, set_overrides, after_overrides⟩ := exists_overriding named_overrides between
  refine ⟨root, ?_, after_layers.trans after_overrides⟩
  rw [tree, set_layers]
  exact set_overrides

end Loader

end PatternSampler
