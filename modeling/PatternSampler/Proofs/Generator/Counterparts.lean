import Mathlib
import PatternSampler.Proofs.Generator.Drawing
import PatternSampler.Proofs.Generator.Language

/-! # Trees that are run in lockstep

Two finished trees with the same links are run in lockstep if nodes with the same id take the same
courses. To know the course of a token it is enough to look at the parent that its node records.
-/

namespace PatternSampler

/-- Nodes with the same id have the same children and take the same courses, and visits to them are
    alike. -/
structure Tree.Counterparts (alike : Visit → Visit → Prop) (extra extra' : UInt32) (t u : Tree) :
    Prop where
  roots : t.roots = u.roots
  children : ∀ {id : NodeId} {n m : Node}, t.get? id = some n → u.get? id = some m →
    n.children = m.children
  course : ∀ {id : NodeId} {n m : Node}, t.get? id = some n → u.get? id = some m →
    ∀ {inChoice : Bool}, (inChoice = true ↔ t.IsChoice n.parent) →
      n.kind.course extra inChoice = m.kind.course extra' inChoice
  visits : ∀ {id : NodeId} {n m : Node}, t.get? id = some n → u.get? id = some m →
    ∀ picked, alike ⟨id, picked, n.kind.textOf picked⟩ ⟨id, picked, m.kind.textOf picked⟩

namespace Subtree

variable {alike : Visit → Visit → Prop} {extra extra' : UInt32} {t u : Tree}

mutual

theorem SitsIn.lockstep (counterparts : t.Counterparts alike extra extra' u) {parent : Option NodeId}
    {inChoice : Bool} (place : inChoice = true ↔ t.IsChoice parent) {st st' : Subtree}
    (sits : st.SitsIn t parent) (sits' : st'.SitsIn u parent) (same : st.id = st'.id) :
    Lockstep alike extra extra' inChoice st st' := by
  cases st with
  | node id kind children =>
      cases st' with
      | node id' kind' children' =>
          cases same
          obtain ⟨found, below⟩ := sits
          obtain ⟨found', below'⟩ := sits'
          have place_below :
              (kind.course extra inChoice).inChoice = true ↔ t.IsChoice (some id) := by
            rw [NodeKind.inChoice_course]
            simp [Tree.IsChoice, found]
          have links := congrArg Array.toList (counterparts.children found found')
          exact .node (counterparts.course found found' place) (counterparts.visits found found')
            (AllSitIn.lockstep counterparts place_below below below' links)

theorem AllSitIn.lockstep (counterparts : t.Counterparts alike extra extra' u)
    {parent : Option NodeId} {inChoice : Bool} (place : inChoice = true ↔ t.IsChoice parent)
    {ss ss' : List Subtree} (sit : AllSitIn t parent ss) (sit' : AllSitIn u parent ss')
    (same : ss.map Subtree.id = ss'.map Subtree.id) :
    AllLockstep alike extra extra' inChoice ss ss' := by
  cases ss with
  | nil =>
      rw [List.map_eq_nil_iff.mp same.symm]
      exact .nil
  | cons st ss =>
      obtain ⟨st', ss', rfl, first, others⟩ := List.map_eq_cons_iff.mp same.symm
      exact .cons (SitsIn.lockstep counterparts place sit.1 sit'.1 first.symm)
        (AllSitIn.lockstep counterparts place sit.2 sit'.2 others.symm)

end

end Subtree

namespace Generator

variable {σ β γ : Type} [DrawSource σ]

/-- What `note` takes of the visits of a run over the whole tree. -/
def noteFrom (note : β → Visit → β) (b : β) (g : Generator) (s : σ) : Except Fault (β × σ) :=
  match g.tree.subtrees with
  | .error e => .error e
  | .ok ts => Subtree.runAll note g.extra false ts b s

theorem drawFrom_eq_noteFrom (g : Generator) (s : σ) :
    g.drawFrom s = g.noteFrom Visit.appendTo "" s :=
  rfl

/-- `Generator.noteFrom` over one of two `Counterparts` is `noteFrom` over the other with the notes read
    through `f`. -/
theorem noteFrom_counterparts {alike : Visit → Visit → Prop} {extra extra' : UInt32} {t u : Tree}
    (built : t.Built) (built' : u.Built) (counterparts : t.Counterparts alike extra extra' u)
    {note : β → Visit → β} {note' : γ → Visit → γ} {f : γ → β}
    (retells : Subtree.Retells alike f note' note) (c : γ) (s : σ) :
    (⟨t, extra⟩ : Generator).noteFrom note (f c) s =
      Subtree.reading f ((⟨u, extra'⟩ : Generator).noteFrom note' c s) := by
  obtain ⟨ts, found, roots, sit⟩ := built.exists_subtrees
  obtain ⟨us, found', roots', sit'⟩ := built'.exists_subtrees
  have top : false = true ↔ t.IsChoice none := by simp [Tree.IsChoice]
  have same : ts.map Subtree.id = us.map Subtree.id := by rw [roots, roots', counterparts.roots]
  rw [noteFrom, noteFrom, found, found']
  exact Subtree.runAll_reading retells (sit.lockstep counterparts top sit' same) c s

end Generator

end PatternSampler
