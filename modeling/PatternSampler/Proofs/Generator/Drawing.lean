import Mathlib
import PatternSampler.Proofs.Generator.Lockstep
import PatternSampler.Proofs.Tree.Plain

/-! # What drawing depends on

Which texts are drawn goes by the kinds of the nodes alone. The ids do not matter, nor does it matter
which tokens the boundaries of a class were written with. Neighbours add their texts one after the other,
each going on with the source that the one before it has left.
-/

namespace PatternSampler

/-- The text so far with that of a visit behind it. -/
def Visit.appendTo (text : String) (visit : Visit) : String := text ++ visit.text

/-- The same is picked and added, whatever the ids are. -/
def Visit.SameButId (v v' : Visit) : Prop := v.picked = v'.picked ∧ v.text = v'.text

namespace NodeKind

theorem course_plain (extra : UInt32) (inChoice : Bool) (kind : NodeKind) :
    kind.plain.course extra inChoice = kind.course extra inChoice := by
  cases kind <;> rfl

theorem textOf_plain (kind : NodeKind) (picked : Option Picked) :
    kind.plain.textOf picked = kind.textOf picked := by
  cases picked with
  | none => cases kind <;> rfl
  | some picked => cases picked <;> rfl

end NodeKind

namespace Subtree

section Notes

variable {σ β : Type} {note : β → Visit → β} {extra : UInt32}

mutual

theorem lockstep_plain (inChoice : Bool) (st : Sprout) (id id' : NodeId) :
    Lockstep Visit.SameButId extra extra inChoice (st.plain.subtree id) (st.subtree id') := by
  cases st with
  | node kind children =>
      rw [Sprout.plain, Sprout.subtree, Sprout.subtree]
      refine .node (kind.course_plain extra inChoice)
        (fun picked => ⟨rfl, kind.textOf_plain picked⟩) ?_
      exact allLockstep_plain _ children (id + 1) (id' + 1)

theorem allLockstep_plain (inChoice : Bool) (ss : List Sprout) (id id' : NodeId) :
    AllLockstep Visit.SameButId extra extra inChoice (Sprout.subtreeAll id (Sprout.plainAll ss))
      (Sprout.subtreeAll id' ss) := by
  cases ss with
  | nil => exact .nil
  | cons st ss =>
      rw [Sprout.plainAll, Sprout.subtreeAll, Sprout.subtreeAll]
      exact .cons (lockstep_plain inChoice st id id') (allLockstep_plain inChoice ss _ _)

end

theorem runAll_append [DrawSource σ] (inChoice : Bool) (ts us : List Subtree) (b : β) (s : σ) :
    runAll note extra inChoice (ts ++ us) b s =
      runAll note extra inChoice ts b s >>= fun (b, s) => runAll note extra inChoice us b s := by
  induction ts generalizing b s with
  | nil => rfl
  | cons t ts ih =>
      rw [List.cons_append, runAll, runAll]
      cases run note extra inChoice t b s with
      | error e => rfl
      | ok result => exact ih result.1 result.2

end Notes

theorem retells_append (text : String) :
    Retells Visit.SameButId (text ++ ·) Visit.appendTo Visit.appendTo := by
  rintro v v' ⟨-, same⟩ c
  rw [Visit.appendTo, Visit.appendTo, same]
  exact String.append_assoc

theorem retells_same : Retells Visit.SameButId (fun text => text) Visit.appendTo Visit.appendTo := by
  rintro v v' ⟨-, same⟩ c
  rw [Visit.appendTo, Visit.appendTo, same]

theorem drawMany_congr {σ : Type} [DrawSource σ] {extra : UInt32} {ts us : List Subtree}
    (same : ∀ s : σ, draw extra ts s = draw extra us s) (n : Nat) (done : List String) (s : σ) :
    drawMany extra ts n done s = drawMany extra us n done s := by
  induction n generalizing done s with
  | zero => rfl
  | succ n ih =>
      rw [drawMany, drawMany, same]
      cases draw extra us s with
      | error e => rfl
      | ok result => exact ih (result.1 :: done) result.2

end Subtree

namespace Sprout

open Subtree

variable {σ : Type} [DrawSource σ] {extra : UInt32} {ss ss' : List Sprout} {s : σ}

/-- One text drawn from pieces that stand next to each other. -/
def draw (extra : UInt32) (ss : List Sprout) (s : σ) : Except Fault (String × σ) :=
  Subtree.draw extra (subtreeAll 0 ss) s

theorem draw_eq : draw extra ss s =
    runAll Visit.appendTo extra false (subtreeAll 0 ss) "" s :=
  rfl

theorem runAll_eq_draw (id : NodeId) (text : String) :
    runAll Visit.appendTo extra false (subtreeAll id ss) text s =
      (fun (more, s) => (text ++ more, s)) <$> draw extra ss s := by
  -- Through the plain pieces, whose ids start at zero on one side and at `id` on the other.
  calc
    _ = reading (fun text => text) (runAll Visit.appendTo extra false (subtreeAll id ss) text s) :=
      (id_map _).symm
    _ = runAll Visit.appendTo extra false (subtreeAll 0 (plainAll ss)) text s :=
      (runAll_reading retells_same (allLockstep_plain false ss 0 id) text s).symm
    _ = runAll Visit.appendTo extra false (subtreeAll 0 (plainAll ss)) (text ++ "") s := by
      rw [String.append_empty]
    _ = reading (text ++ ·) (draw extra ss s) :=
      runAll_reading (retells_append text) (allLockstep_plain false ss 0 0) "" s

theorem draw_plain : draw extra (plainAll ss) s = draw extra ss s :=
  (runAll_reading retells_same (allLockstep_plain false ss 0 0) "" s).trans (id_map _)

theorem draw_append : draw extra (ss ++ ss') s = do
    let (text, s) ← draw extra ss s
    let (text', s) ← draw extra ss' s
    return (text ++ text', s) := by
  rw [draw_eq, subtreeAll_append, runAll_append, ← draw_eq]
  simp only [runAll_eq_draw]
  rfl

theorem draw_single {st : Sprout} :
    draw extra [st] s = run Visit.appendTo extra false (st.subtree 0) "" s := by
  rw [draw_eq, subtreeAll, subtreeAll, runAll]
  cases run Visit.appendTo extra false (st.subtree 0) "" s <;> rfl

theorem draw_sequence {kind : NodeKind} (sequence : kind = .opening ∨ kind = .closing ∨ kind = .group) :
    draw extra [.node kind ss] s = draw extra ss s := by
  have below : run Visit.appendTo extra false
      ((node kind ss).subtree 0) "" s = runAll Visit.appendTo extra false (subtreeAll 1 ss) "" s := by
    rcases sequence with rfl | rfl | rfl <;> rw [subtree, run] <;> rfl
  rw [draw_single, below, runAll_eq_draw]
  simp

theorem draw_frame : draw extra (Tree.frame ss) s = draw extra ss s := by
  have closing (s : σ) : draw extra [.node .closing []] s = .ok ("", s) :=
    draw_sequence (.inr (.inl rfl))
  have split : Tree.frame ss = [.node .opening ss] ++ [.node .closing []] := rfl
  rw [split, draw_append, draw_sequence (.inl rfl)]
  simp only [closing]
  cases draw extra ss s with
  | error e => rfl
  | ok result => exact congrArg (fun text => Except.ok (text, result.2)) String.append_empty

end Sprout

namespace Generator

open Sprout

variable {σ : Type} [DrawSource σ] {extra : UInt32} {ss ss' : List Sprout} {s : σ}

/-- `drawFrom` over a `Tree.framed` is `Sprout.draw` over what was put into the frame. -/
theorem drawFrom_framed (wf : AllWellFormed ss) :
    (⟨Tree.framed ss, extra⟩ : Generator).drawFrom s = Sprout.draw extra ss s := by
  rw [drawFrom, Tree.subtrees_framed wf]
  exact draw_frame

theorem samplesFrom_framed (wf : AllWellFormed ss) (wf' : AllWellFormed ss')
    (same : ∀ s : σ, Sprout.draw extra ss s = Sprout.draw extra ss' s) (count : Nat) (s : σ) :
    (⟨Tree.framed ss, extra⟩ : Generator).samplesFrom count s =
      (⟨Tree.framed ss', extra⟩ : Generator).samplesFrom count s := by
  have same (s : σ) : Sprout.draw extra (Tree.frame ss) s = Sprout.draw extra (Tree.frame ss') s := by
    rw [draw_frame, draw_frame, same]
  simp only [samplesFrom, Tree.subtrees_framed wf, Tree.subtrees_framed wf',
    Subtree.drawMany_congr same]

end Generator

end PatternSampler
