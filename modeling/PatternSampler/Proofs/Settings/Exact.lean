import Mathlib
import PatternSampler.Proofs.Settings.Precedence

/-! # Numbers are kept as they are

Whatever else layers hold, a scalar that is set at a path stays there until something is set at the path,
below it, or over it. The defaults are the first layer. When it is a whole number that stays at the path
of a setting of 32 bits, the setting is this number, or there are no settings at all.
-/

namespace PatternSampler

open SettingValue

namespace Assignment

/-- What is set at the end of `steps` does not change what is at the end of a path: at some point the two
    go on with different names, or it is only a table on the way. -/
def Elsewhere : (path steps : List PathStep) → SettingValue → Prop
  | [], _, _ => False
  | _ :: _, [], v => v.isEmptyTable
  | _ :: _, .index _ :: _, _ => False
  | step :: path, .key name :: steps, v => step ≠ .key name ∨ Elsewhere path steps v

def decidableElsewhere : (path steps : List PathStep) → (v : SettingValue) →
    Decidable (Elsewhere path steps v)
  | [], _, _ => inferInstanceAs (Decidable False)
  | _ :: _, [], v => inferInstanceAs (Decidable (v.isEmptyTable = true))
  | _ :: _, .index _ :: _, _ => inferInstanceAs (Decidable False)
  | step :: path, .key name :: steps, v =>
    have := decidableElsewhere path steps v
    inferInstanceAs (Decidable (step ≠ .key name ∨ Elsewhere path steps v))

def Leaves (path : List PathStep) (a : Assignment) : Prop := Elsewhere path a.path a.value

instance (path : List PathStep) (a : Assignment) : Decidable (a.Leaves path) :=
  decidableElsewhere path a.path a.value

/-- A value is set at the path, and whatever is set later leaves it there. -/
def Settles (path : List PathStep) (value : SettingValue) (as : List Assignment) : Prop :=
  ∃ before after, as = before ++ ⟨path, value⟩ :: after ∧ ∀ a ∈ after, a.Leaves path

variable {path steps : List PathStep} {step : PathStep} {name : String} {value : SettingValue}
  {a : Assignment} {as bs : List Assignment}

theorem Elsewhere.spares (elsewhere : Elsewhere path steps value) : Spares path ⟨steps, value⟩ := by
  induction path generalizing steps with
  | nil => exact elsewhere.elim
  | cons step path ih =>
      cases steps with
      | nil => exact ⟨by simp, fun _ => elsewhere⟩
      | cons next steps =>
          cases next with
          | index place => exact elsewhere.elim
          | key name =>
              simp only [Spares, List.cons_prefix_cons]
              rcases elsewhere with apart | below
              · exact ⟨fun same => apart same.1, fun same => absurd same.1.symm apart⟩
              · obtain ⟨clear, table⟩ := ih below
                exact ⟨fun same => clear same.2, fun same => table same.2⟩

theorem leaves_below : (a.below [.key name]).Leaves (.key name :: path) ↔ a.Leaves path := by
  simp [Leaves, below, Elsewhere]

theorem Settles.of_append (settles : Settles path value (as ++ bs)) :
    Settles path value bs ∨ Settles path value as ∧ ∀ b ∈ bs, b.Leaves path := by
  obtain ⟨before, after, eq, leaves⟩ := settles
  rcases List.append_eq_append_iff.mp eq with ⟨more, rfl, rfl⟩ | ⟨more, rfl, split⟩
  · exact .inl ⟨more, after, rfl, leaves⟩
  · cases more with
    | nil => exact .inl ⟨[], after, split.symm, leaves⟩
    | cons first more =>
        obtain ⟨rfl, rfl⟩ := List.cons.inj split
        exact .inr ⟨⟨before, more, rfl, fun a member => leaves a (List.mem_append_left _ member)⟩,
          fun b member => leaves b (List.mem_append_right _ member)⟩

theorem Settles.of_below (names : ∀ step ∈ path, step.isKey)
    (settles : Settles path value (as.map (below [step]))) :
    ∃ steps, path = step :: steps ∧ Settles steps value as := by
  obtain ⟨before, after, eq, leaves⟩ := settles
  obtain ⟨as₁, as₂, rfl, rfl, rest⟩ := List.map_eq_append_iff.mp eq
  obtain ⟨a, as₃, rfl, there, rfl⟩ := List.map_eq_cons_iff.mp rest
  cases there
  have named : step.isKey := names _ List.mem_cons_self
  cases step with
  | index place => cases named
  | key name =>
      exact ⟨a.path, rfl, as₁, as₃, rfl, fun b member =>
        leaves_below.mp (leaves _ (List.mem_map_of_mem member))⟩

end Assignment

open Assignment

/-- What settles at a path of names is held there. -/
def Holds (as : List Assignment) (v : SettingValue) : Prop :=
  ∀ (path : List PathStep) (value : SettingValue), (∀ step ∈ path, step.isKey) → value.isScalar →
    Settles path value as → v.at? path = some value

/-- What is left alone is held in the second tree if it is held in the first. -/
def Keeps (as : List Assignment) (v v' : SettingValue) : Prop :=
  ∀ (path : List PathStep) (old : SettingValue), (∀ a ∈ as, a.Leaves path) →
    v.at? path = some old → v'.at? path = some old

structure Puts (as : List Assignment) (v v' : SettingValue) : Prop where
  holds : Holds as v'
  keeps : Keeps as v v'

variable {as bs : List Assignment} {v v' v'' root : SettingValue} {key : String}
  {f : Option SettingValue → SettingValue}

theorem Holds.append (first : Holds as v) (second : Puts bs v v') : Holds (as ++ bs) v' := by
  intro path value names scalar settles
  rcases settles.of_append with later | ⟨earlier, left⟩
  · exact second.holds path value names scalar later
  · exact second.keeps path value left (first path value names scalar earlier)

theorem holds_nil (v : SettingValue) : Holds [] v := by
  rintro path value - - ⟨before, after, eq, -⟩
  cases before <;> cases eq

theorem Keeps.of_after (after : After as v v') : Keeps as v v' := by
  intro path old left held
  have spares : ∀ a ∈ as, a.Spares path := fun a member => (left a member).spares
  have nothing : last? path as = none := last?_eq_none.mpr fun a member there =>
    (spares a member).1 (there ▸ List.prefix_rfl)
  rw [after path old (fun a member => .inr (spares a member)) held, nothing]
  rfl

namespace Puts

theorem refl (v : SettingValue) : Puts [] v v := ⟨holds_nil v, fun _ _ _ held => held⟩

theorem trans (first : Puts as v v') (second : Puts bs v' v'') : Puts (as ++ bs) v v'' := by
  refine ⟨first.holds.append second, fun path old left held => ?_⟩
  obtain ⟨left_first, left_second⟩ := List.forall_mem_append.mp left
  exact second.keeps path old left_second (first.keeps path old left_first held)

end Puts

/-! ## One value -/

theorem Holds.alterKey (entry : Holds as (f (v.child? (Text.lowercase key)))) :
    Holds (as.map (below [.key (Text.lowercase key)])) (v.alterKey key f) := by
  intro path value names scalar settles
  obtain ⟨steps, rfl, inside⟩ := settles.of_below names
  rw [at?, child?_alterKey, if_pos rfl]
  exact entry steps value (List.forall_mem_cons.mp names).2 scalar inside

theorem Keeps.alterKey (some_set : ∃ a, a ∈ as)
    (entry : ∀ old, v.child? (Text.lowercase key) = some old → Keeps as old (f (some old))) :
    Keeps (as.map (below [.key (Text.lowercase key)])) v (v.alterKey key f) := by
  intro path old left held
  cases path with
  | nil =>
      obtain ⟨a, member⟩ := some_set
      exact (left _ (List.mem_map_of_mem member)).elim
  | cons step steps =>
      cases step with
      | index place => cases held
      | key name =>
          rw [at?] at held ⊢
          rw [child?_alterKey]
          by_cases same : name = Text.lowercase key
          · subst same
            obtain ⟨child, found, held⟩ := Option.bind_eq_some_iff.mp held
            have inside : ∀ a ∈ as, a.Leaves steps := fun a member =>
              leaves_below.mp (left _ (List.mem_map_of_mem member))
            rw [if_pos rfl, found]
            exact entry child found steps old inside held
          · rw [if_neg same]
            exact held

mutual

theorem holds_mergeInto (v : SettingValue) (old : Option SettingValue) :
    Holds v.assignments (mergeInto old v) := by
  cases v with
  | table entries origin =>
      rintro path value names scalar ⟨before, after, eq, left⟩
      cases before with
      | nil =>
          cases eq
          cases scalar
      | cons _ before =>
          have later : assignmentsIn entries = before ++ ⟨path, value⟩ :: after := (List.cons.inj eq).2
          exact (puts_mergeEntries (old.getD (table [] none)) entries).holds path value names scalar
            ⟨before, after, later, left⟩
  | scalar | list =>
      rintro path value - - ⟨before, after, eq, -⟩
      cases before with
      | nil =>
          cases eq
          rfl
      | cons _ before => simp [SettingValue.assignments] at eq

theorem puts_mergeEntries (target : SettingValue) (es : List (String × SettingValue)) :
    Puts (assignmentsIn es) target (mergeEntries target es) := by
  cases es with
  | nil => exact .refl target
  | cons e es =>
      obtain ⟨key, v⟩ := e
      have first : Holds _ (target.alterKey key fun old => mergeInto old v) :=
        .alterKey (holds_mergeInto v _)
      exact ⟨first.append (puts_mergeEntries _ es), .of_after (after_mergeEntries target _)⟩

end

theorem puts_setAt {steps : List PathStep} (nonempty : steps ≠ []) {value : SettingValue}
    (set : root.setAt steps value = .ok v) :
    Puts (value.assignments.map (below (steps.map (·.lowercase)))) root v := by
  induction steps generalizing root v with
  | nil => exact (nonempty rfl).elim
  | cons step steps ih =>
      have one_by_one : value.assignments.map (below ((step :: steps).map (·.lowercase))) =
          (value.assignments.map (below (steps.map (·.lowercase)))).map (below [step.lowercase]) := by
        rw [List.map_map]
        rfl
      have some_set : ∃ a, a ∈ value.assignments.map (below (steps.map (·.lowercase))) :=
        value.exists_assignment.imp' _ fun _ => List.mem_map_of_mem
      rw [one_by_one]
      cases step with
      | index place =>
          refine ⟨fun path value names scalar settles => ?_, fun path old left held => ?_⟩
          · obtain ⟨steps, rfl, -⟩ := settles.of_below names
            cases names _ List.mem_cons_self
          · obtain ⟨a, member⟩ := some_set
            have nowhere := left _ (List.mem_map_of_mem member)
            cases path <;> exact nowhere.elim
      | key name =>
          cases steps with
          | nil =>
              cases set
              rw [List.map_nil, show below [] = id from rfl, List.map_id] at some_set ⊢
              exact ⟨.alterKey (holds_mergeInto value _),
                .alterKey some_set fun old _ => .of_after (after_mergeInto value old)⟩
          | cons step steps =>
              rw [setAt] at set
              · obtain ⟨changed, set_below, made⟩ := then_eq_ok.mp set
                cases made
                have below := ih (List.cons_ne_nil _ _) set_below
                refine ⟨.alterKey below.holds, .alterKey some_set fun old found => ?_⟩
                have there : (root.entry? name).getD nothing = old := by
                  rw [show root.entry? name = some old from found]
                  rfl
                exact there ▸ below.keeps
              · simp

theorem puts_setKey {value : SettingValue} (set : root.setKey key value = .ok v) :
    Puts (ofEntry (key, value)) root v :=
  puts_setAt (PathStep.ofKey_ne_nil key) set

theorem puts_override {o : List PathStep × Scalar} (set : root.setAt o.1 (.scalar o.2 none) = .ok v) :
    Puts [ofOverride o] root v := by
  have one : (SettingValue.scalar o.2 none).assignments.map (below (o.1.map (·.lowercase))) =
      [ofOverride o] := by
    simp [SettingValue.assignments, below, ofOverride]
  obtain ⟨steps, x⟩ := o
  cases steps with
  | nil =>
      cases set
      refine ⟨?_, fun path old left held => ?_⟩
      · have whole := holds_mergeInto (.scalar x none) none
        exact whole
      · have nowhere := left _ List.mem_cons_self
        cases path with
        | nil => exact nowhere.elim
        | cons _ _ => cases nowhere
  | cons step steps => exact one ▸ puts_setAt (List.cons_ne_nil _ _) set

/-! ## All values -/

theorem puts_foldlM {ε α : Type} {set : SettingValue → α → Except ε SettingValue}
    {sets : α → List Assignment} {xs : List α}
    (each : ∀ x ∈ xs, ∀ v v', set v x = .ok v' → Puts (sets x) v v')
    (done : xs.foldlM set v = .ok v') : Puts (xs.flatMap sets) v v' := by
  induction xs generalizing v with
  | nil =>
      cases done
      exact .refl _
  | cons x xs ih =>
      obtain ⟨first, others⟩ := List.forall_mem_cons.mp each
      rw [List.foldlM_cons] at done
      obtain ⟨between, set_first, set_others⟩ := then_eq_ok.mp done
      exact (first v between set_first).trans (ih others set_others)

theorem puts_setAll {α : Type} {set : SettingValue → α → Except PlaceFault SettingValue}
    {sets : α → List Assignment} {xs : List α}
    (each : ∀ x ∈ xs, ∀ v v', set v x = .ok v' → Puts (sets x) v v')
    (done : Loader.setAll set v xs = .ok v') : Puts (xs.flatMap sets) v v' := by
  rw [Loader.setAll] at done
  split at done
  · next folded =>
      cases done
      exact puts_foldlM each folded
  · cases done

namespace Loader

variable {l : Loader} {s : Surroundings}

/-- What is set one after the other: the defaults, the layers and the overrides. -/
def assignments (l : Loader) (s : Surroundings) : List Assignment :=
  defaults.assignments ++ (l.layers.flatMap (·.assignments s) ++ l.overrides.map ofOverride)

theorem holds_tree (merged : l.tree s = .ok root) : Holds (l.assignments s) root := by
  obtain ⟨between, layered, overridden⟩ := then_eq_ok.mp merged
  have layers : Puts (l.layers.flatMap (·.assignments s)) defaults between := by
    refine puts_foldlM (fun layer _ v v' set => ?_) layered
    obtain ⟨entries, read, set⟩ := then_eq_ok.mp set
    simp only [Layer.assignments, read]
    exact puts_setAll (fun e _ v v' set => puts_setKey set) set
  have overrides : Puts (l.overrides.map ofOverride) between root := by
    have each := puts_setAll (fun o _ v v' set => puts_override set) overridden
    rw [← List.flatMap_singleton' l.overrides, List.map_flatMap]
    exact each
  have first : Holds defaults.assignments defaults := holds_mergeInto defaults none
  exact first.append (layers.trans overrides)

end Loader

/-! ## Whole numbers -/

namespace SettingValue

variable {origin : Option String} {n : Int}

/-- `toWord32` of an integer is the word of that value, if there is one. -/
theorem toWord32_integer {w : UInt32} :
    (scalar (.integer n) origin).toWord32 key = .ok w ↔ (w.toNat : Int) = n := by
  have small : w.toNat < UInt32.size := w.toNat_lt
  have narrower : UInt32.size ≤ Text.word64Max := by decide
  rw [toWord32, toNatural, then_eq_ok]
  dsimp only
  constructor
  · rintro ⟨m, whole, word⟩
    split at whole
    · cases whole
      split at word
      · next fits =>
          cases word
          rw [UInt32.toNat_ofNat_of_lt' fits]
          omega
      · cases word
    · cases whole
  · rintro rfl
    refine ⟨w.toNat, if_pos ⟨by omega, by omega⟩, ?_⟩
    rw [if_pos small, UInt32.ofNat_toNat]

theorem refusal_toWord32 {e : SettingsError}
    (refused : (scalar (.integer n) origin).toWord32 key = .error e) :
    ∃ found expected origin, e = .notANumber found expected key origin := by
  rw [toWord32, toNatural] at refused
  dsimp only at refused
  split at refused
  · rw [ok_then] at refused
    split at refused
    · cases refused
    · cases refused
      exact ⟨_, _, _, rfl⟩
  · cases refused
    exact ⟨_, _, _, rfl⟩

end SettingValue

namespace Text

theorem exists_of_signed64 {text : String} {n : Int} (read : signed64? text = some n) :
    ∃ c cs, text.toList = c :: cs ∧ c.toNat < 'A'.toNat := by
  obtain ⟨number, -⟩ := Option.filter_eq_some_iff.mp read
  cases written : text.toList with
  | nil =>
      rw [written] at number
      cases number
  | cons c cs =>
      refine ⟨c, cs, rfl, ?_⟩
      rw [written] at number
      split at number
      · next eq => cases eq; decide
      · next eq => cases eq; decide
      · obtain ⟨m, digits, -⟩ := Option.map_eq_some_iff.mp number
        obtain ⟨⟨-, all⟩, -⟩ := Option.ite_none_right_eq_some.mp digits
        have digit : c ≤ '9' := by
          have first := List.all_eq_true.mp all c List.mem_cons_self
          simp only [isDigit, Bool.and_eq_true, decide_eq_true_eq] at first
          exact first.2
        exact Nat.lt_of_le_of_lt digit (by decide)

theorem head?_lowercase {text : String} {c : Char} {cs : List Char} (written : text.toList = c :: cs)
    (low : c.toNat < 'A'.toNat) : (lowercase text).toList.head? = some c := by
  have ascii : c.toNat < 0x80 := low.trans (by decide)
  have no_sigma : c ≠ 'Σ' := by
    rintro rfl
    exact absurd ascii (by decide)
  have small : c.toLower = c := by
    refine Char.toLower_eq_of_not_isUpper fun upper => ?_
    simp only [Char.isUpper, decide_eq_true_eq] at upper
    exact absurd upper.1 (Nat.not_le_of_lt low)
  rw [lowercase, written, String.toList_ofList, lowercaseAfter, if_neg no_sigma, lowercaseChar,
    if_pos ascii, small]
  rfl

end Text

/-- `Environment.scalar` is an integer exactly on texts that `Text.signed64?` reads. -/
theorem Environment.scalar_eq_integer {text : String} {n : Int} :
    scalar text = .integer n ↔ Text.signed64? text = some n := by
  have no_word (read : Text.signed64? text = some n) {word : String} {d : Char}
      (first : word.toList.head? = some d) (letter : 'A'.toNat ≤ d.toNat) : Text.lowercase text ≠ word := by
    rintro rfl
    obtain ⟨c, cs, written, low⟩ := Text.exists_of_signed64 read
    cases first.symm.trans (Text.head?_lowercase written low)
    omega
  rw [scalar]
  constructor
  · intro taken
    split at taken
    · cases taken
    · split at taken
      · cases taken
      · split at taken
        · next read =>
            cases taken
            exact read
        · split at taken <;> cases taken
  · intro read
    have no_true : Text.lowercase text ≠ "true" := no_word read rfl (by decide)
    have no_false : Text.lowercase text ≠ "false" := no_word read rfl (by decide)
    rw [if_neg no_true, if_neg no_false, read]

namespace Loader

variable {l : Loader} {s : Surroundings} {n : Int} {origin : Option String}

theorem build_of_settles {x : SettingValue} (scalar : x.isScalar)
    (supplied : Settles Setting.extra.path x (l.assignments s)) : l.build s = do
      let root ← l.tree s
      let extra ← x.toWord32 "generator.unbounded_extra"
      let (count, format) ← outputSettings (← root.namedSection "output")
      return ⟨extra, count, format⟩ := by
  rw [build]
  cases merged : l.tree s with
  | error e => rfl
  | ok root =>
      have held := holds_tree merged Setting.extra.path x (by decide) scalar supplied
      rw [ok_then, ok_then, toSettings_of_extra held]

/-- If an integer `Settles` at the path of the window, `Loader.build` answers it exactly, or fails as
    `notANumber` where 32 bits cannot hold it. In the environment the integers are what `Text.signed64?`
    reads. -/
theorem build_of_integer (supplied : Settles Setting.extra.path (.scalar (.integer n) origin)
      (l.assignments s)) :
    (∀ settings, l.build s = .ok settings → (settings.extra.toNat : Int) = n) ∧
    (0 ≤ n → n < 2 ^ 32 → ∃ extra : UInt32, (extra.toNat : Int) = n ∧ l.build s = do
      let (count, format) ← outputSettings (← (← l.tree s).namedSection "output")
      return ⟨extra, count, format⟩) ∧
    (n < 0 ∨ 2 ^ 32 ≤ n → ∃ e, l.build s = .error e ∧ ∀ root, l.tree s = .ok root →
      ∃ found expected origin', e = .notANumber found expected "generator.unbounded_extra" origin') ∧
    ∀ text m, Environment.scalar text = .integer m ↔ Text.signed64? text = some m := by
  have built := build_of_settles rfl supplied
  refine ⟨fun settings done => ?_, fun nonneg small => ?_, fun beyond => ?_, fun _ _ =>
    Environment.scalar_eq_integer⟩
  · rw [built] at done
    obtain ⟨root, -, done⟩ := then_eq_ok.mp done
    obtain ⟨extra, taken, done⟩ := then_eq_ok.mp done
    obtain ⟨output, -, done⟩ := then_eq_ok.mp done
    obtain ⟨others, -, done⟩ := then_eq_ok.mp done
    cases done
    exact toWord32_integer.mp taken
  · have same : ((UInt32.ofNat n.toNat).toNat : Int) = n := by
      have fits : n.toNat < UInt32.size := (Int.toNat_lt nonneg).mpr small
      rw [UInt32.toNat_ofNat_of_lt' fits, Int.toNat_of_nonneg nonneg]
    refine ⟨UInt32.ofNat n.toNat, same, ?_⟩
    rw [built, toWord32_integer.mpr same]
    rfl
  · cases merged : l.tree s with
    | error e => exact ⟨e, by rw [built, merged]; rfl, nofun⟩
    | ok root =>
        cases taken : (SettingValue.scalar (.integer n) origin).toWord32 "generator.unbounded_extra" with
        | ok w =>
            have same := toWord32_integer.mp taken
            have small := w.toNat_lt
            omega
        | error e =>
            refine ⟨e, by rw [built, merged, ok_then, taken]; rfl, fun _ _ => ?_⟩
            exact refusal_toWord32 taken

/-- An override that is one too large, over a value of the environment that would do. -/
theorem build_of_integer_beyond :
    let s : Surroundings := ⟨[], [("RXGEN_GENERATOR__UNBOUNDED_EXTRA", "3")]⟩
    let window := [PathStep.key "generator", .key "unbounded_extra"]
    let l : Loader := ⟨[.environment], [(window, .integer (2 ^ 32)),
      ([.key "output", .key "count"], .integer 2)]⟩
    Settles Setting.extra.path (.scalar (.integer (2 ^ 32)) none) (l.assignments s) ∧
      ∃ e, l.build s = .error e := by
  intro s window l
  have supplied : Settles Setting.extra.path (.scalar (.integer (2 ^ 32)) none) (l.assignments s) := by
    refine ⟨defaults.assignments ++ l.layers.flatMap (·.assignments s),
      [ofOverride ([.key "output", .key "count"], .integer 2)], ?_, by decide +kernel⟩
    rw [assignments, List.append_assoc]
    rfl
  obtain ⟨e, failed, -⟩ := (build_of_integer supplied).2.2.1 (.inr le_rfl)
  exact ⟨supplied, e, failed⟩

end Loader

end PatternSampler
