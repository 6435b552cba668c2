import Mathlib
import PatternSampler.Generator

/-! # Runs in lockstep

What a visit asks of the source, and how the run goes on from there, is the course that the node takes.
Two runs over subtrees whose nodes take the same courses pick the same all along, whatever their nodes
are otherwise, and their notes differ only in what is noted of single visits.
-/

namespace PatternSampler

inductive Course where
  /-- Nothing is picked, and all children are visited. -/
  | through
  /-- One child is picked and visited. The children may stand in a choice. -/
  | oneChild (inChoice : Bool)
  | oneChar (lo hi : Char)
  /-- A count is picked, and all children are visited so many times. -/
  | copies (least most : Nat)
  /-- Nothing is picked, and there are no children. -/
  | still
  deriving Repr, DecidableEq

/-- Whether the children stand in a choice. -/
def Course.inChoice : Course → Bool
  | oneChild inChoice => inChoice
  | _ => false

namespace NodeKind

/-- The course of a node of this kind. `inChoice` says that its parent is a choice. -/
def course (extra : UInt32) (inChoice : Bool) : NodeKind → Course
  | opening | closing | group => .through
  | alternative => .oneChild false
  | choice => .oneChild true
  | characterClass cls => .oneChar cls.lo cls.hi
  | repetition r => .copies r.min.toNat (r.largest extra)
  | token t =>
    if t.isWildcard && !inChoice then .oneChar wildcardBounds.1 wildcardBounds.2 else .still

/-- What a node adds by itself when nothing is picked: a token its own text, an escape nothing. -/
def ownText : NodeKind → String
  | token t => if t.isEscape then "" else t.text
  | _ => ""

/-- What a visit adds: the character that was picked, or the node's own text if nothing was. -/
def textOf (kind : NodeKind) : Option Picked → String
  | none => kind.ownText
  | some (.char c) => c.toString
  | some (.child _) | some (.count _) => ""

theorem inChoice_course {extra : UInt32} {inChoice : Bool} {kind : NodeKind} :
    (kind.course extra inChoice).inChoice = true ↔ kind = .choice := by
  cases kind with
  | token t =>
      rw [course]
      split <;> simp [Course.inChoice]
  | _ => simp [course, Course.inChoice]

theorem ownText_of_oneChild {extra : UInt32} {inChoice within : Bool} {kind : NodeKind}
    (course : kind.course extra inChoice = .oneChild within) : kind.ownText = "" := by
  cases kind with
  | token t =>
      rw [NodeKind.course] at course
      split at course <;> cases course
  | _ => rfl

end NodeKind

namespace Subtree

section

variable {σ β : Type} [DrawSource σ] {note : β → Visit → β} {extra : UInt32}

theorem runToken_eq (inChoice : Bool) (id : NodeId) (t : Token) (b : β) (s : σ) :
    runToken note inChoice id t b s =
      if t.isWildcard && !inChoice then
        match Pick.char wildcardBounds.1 wildcardBounds.2 s with
        | .error e => .error e
        | .ok (c, s) => .ok (note b ⟨id, some (.char c), c.toString⟩, s)
      else .ok (note b ⟨id, none, (NodeKind.token t).ownText⟩, s) := by
  cases t <;> rfl

theorem run_node (inChoice : Bool) (id : NodeId) (kind : NodeKind) (children : List Subtree) (b : β)
    (s : σ) : run note extra inChoice (.node id kind children) b s =
      match kind.course extra inChoice with
      | .through => runAll note extra false children (note b ⟨id, none, kind.textOf none⟩) s
      | .oneChild within =>
        match pickChild note id children.length b s with
        | .error e => .error e
        | .ok (index, b, s) => runNth note extra within children index b s
      | .oneChar lo hi =>
        match Pick.char lo hi s with
        | .error e => .error e
        | .ok (c, s) => .ok (note b ⟨id, some (.char c), kind.textOf (some (.char c))⟩, s)
      | .copies least most =>
        match Pick.number least most s with
        | .error e => .error e
        | .ok (n, s) =>
          iterate (fun (b, s) => runAll note extra false children b s) n
            (note b ⟨id, some (.count n), kind.textOf (some (.count n))⟩, s)
      | .still => .ok (note b ⟨id, none, kind.textOf none⟩, s) := by
  cases kind with
  | token t =>
      rw [NodeKind.course, run, runToken_eq]
      split <;> rfl
  | _ => rfl

end

/-! ## Lockstep -/

section

variable (alike : Visit → Visit → Prop) (extra extra' : UInt32)

mutual

/-- The nodes take the same courses, and corresponding visits are alike. -/
inductive Lockstep : (inChoice : Bool) → Subtree → Subtree → Prop
  | node {inChoice : Bool} {id id' : NodeId} {kind kind' : NodeKind} {children children' : List Subtree}
      (course : kind.course extra inChoice = kind'.course extra' inChoice)
      (visits : ∀ picked, alike ⟨id, picked, kind.textOf picked⟩ ⟨id', picked, kind'.textOf picked⟩)
      (below : AllLockstep (kind.course extra inChoice).inChoice children children') :
      Lockstep inChoice (.node id kind children) (.node id' kind' children')

inductive AllLockstep : (inChoice : Bool) → List Subtree → List Subtree → Prop
  | nil {inChoice : Bool} : AllLockstep inChoice [] []
  | cons {inChoice : Bool} {st st' : Subtree} {ss ss' : List Subtree}
      (first : Lockstep inChoice st st') (others : AllLockstep inChoice ss ss') :
      AllLockstep inChoice (st :: ss) (st' :: ss')

end

end

section

variable {alike : Visit → Visit → Prop} {extra extra' : UInt32} {inChoice : Bool}

theorem AllLockstep.length_eq {ss ss' : List Subtree}
    (lockstep : AllLockstep alike extra extra' inChoice ss ss') : ss.length = ss'.length := by
  induction ss generalizing ss' with
  | nil =>
      cases lockstep
      rfl
  | cons st ss ih =>
      cases lockstep with
      | cons first others => exact congrArg (· + 1) (ih others)

variable {σ β γ : Type} {note : β → Visit → β} {note' : γ → Visit → γ} {f : γ → β}

/-- What a run comes to when its notes are read through `f`. -/
def reading (f : γ → β) (run : Except Fault (γ × σ)) : Except Fault (β × σ) :=
  (fun (c, s) => (f c, s)) <$> run

/-- Notes that `note` takes of a visit are notes that `note'` takes of a visit like it, read through
    `f`. -/
def Retells (alike : Visit → Visit → Prop) (f : γ → β) (note' : γ → Visit → γ)
    (note : β → Visit → β) : Prop :=
  ∀ v v', alike v v' → ∀ c, note (f c) v = f (note' c v')

theorem iterate_reading {step : β × σ → Except Fault (β × σ)} {step' : γ × σ → Except Fault (γ × σ)}
    (each : ∀ c s, step (f c, s) = reading f (step' (c, s))) (n : Nat) (c : γ) (s : σ) :
    iterate step n (f c, s) = reading f (iterate step' n (c, s)) := by
  induction n generalizing c s with
  | zero => rfl
  | succ n ih =>
      rw [iterate, iterate, each]
      cases step' (c, s) with
      | error e => rfl
      | ok result => exact ih result.1 result.2

variable [DrawSource σ]

theorem pickChild_reading (retells : Retells alike f note' note) {id id' : NodeId}
    (unpicked : alike ⟨id, none, ""⟩ ⟨id', none, ""⟩)
    (picked : ∀ i, alike ⟨id, some (.child i), ""⟩ ⟨id', some (.child i), ""⟩) (count : Nat) (c : γ)
    (s : σ) : pickChild note id count (f c) s =
      (fun (index, c, s) => (index, f c, s)) <$> pickChild note' id' count c s := by
  unfold pickChild
  simp only [retells _ _ unpicked, fun i => retells _ _ (picked i)]
  split
  · rfl
  · cases Pick.place count s <;> rfl

mutual

/-- A `run` over one of two subtrees in `Lockstep` is a `run` over the other with the notes read through
    `f`. -/
theorem run_reading (retells : Retells alike f note' note) {inChoice : Bool} {st st' : Subtree}
    (lockstep : Lockstep alike extra extra' inChoice st st') (c : γ) (s : σ) :
    run note extra inChoice st (f c) s = reading f (run note' extra' inChoice st' c s) := by
  cases st with
  | node id kind children =>
      cases lockstep with
      | @node _ _ id' _ kind' _ children' course visits below =>
          have retold (picked : Option Picked) := retells _ _ (visits picked)
          rw [run_node, run_node, ← course]
          cases own : kind.course extra inChoice with
          | through =>
              rw [own] at below
              simp only [retold]
              exact runAll_reading retells below _ s
          | oneChild within =>
              rw [own] at below
              have unpicked := visits none
              rw [NodeKind.textOf, NodeKind.textOf, NodeKind.ownText_of_oneChild own,
                NodeKind.ownText_of_oneChild (course.symm.trans own)] at unpicked
              simp only [below.length_eq,
                pickChild_reading retells unpicked fun i => visits (some (.child i))]
              cases pickChild note' id' children'.length c s with
              | error e => rfl
              | ok picked => exact runNth_reading retells below picked.1 picked.2.1 picked.2.2
          | oneChar lo hi =>
              simp only [retold]
              cases Pick.char lo hi s <;> rfl
          | copies least most =>
              rw [own] at below
              simp only [retold]
              cases Pick.number least most s with
              | error e => rfl
              | ok picked =>
                  exact iterate_reading (fun c s => runAll_reading retells below c s) _ _ _
          | still =>
              simp only [retold]
              rfl

theorem runAll_reading (retells : Retells alike f note' note) {inChoice : Bool} {ss ss' : List Subtree}
    (lockstep : AllLockstep alike extra extra' inChoice ss ss') (c : γ) (s : σ) :
    runAll note extra inChoice ss (f c) s = reading f (runAll note' extra' inChoice ss' c s) := by
  cases ss with
  | nil =>
      cases lockstep
      rfl
  | cons st ss =>
      cases lockstep with
      | @cons _ _ st' _ ss' first others =>
          rw [runAll, runAll, run_reading retells first]
          cases run note' extra' inChoice st' c s with
          | error e => rfl
          | ok result => exact runAll_reading retells others result.1 result.2

theorem runNth_reading (retells : Retells alike f note' note) {inChoice : Bool} {ss ss' : List Subtree}
    (lockstep : AllLockstep alike extra extra' inChoice ss ss') (index : Nat) (c : γ) (s : σ) :
    runNth note extra inChoice ss index (f c) s =
      reading f (runNth note' extra' inChoice ss' index c s) := by
  cases ss with
  | nil =>
      cases lockstep
      rfl
  | cons st ss =>
      cases lockstep with
      | cons first others =>
          cases index with
          | zero => exact run_reading retells first c s
          | succ index => exact runNth_reading retells others index c s

end

end

end Subtree

end PatternSampler
