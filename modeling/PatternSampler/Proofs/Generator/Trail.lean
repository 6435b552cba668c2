import Mathlib
import PatternSampler.Proofs.Generator.Counterparts

/-! # Trails

The trail of a run is which nodes it visits and what it picks there. The text of the run is written along
its trail, but the trail does not go by the texts that tokens write: other tokens in their places, as
long as no wildcard comes or goes, leave it as it is.
-/

namespace PatternSampler

/-- A visit, apart from the text that it adds. -/
structure Step where
  node : NodeId
  picked : Option Picked
  deriving Repr, DecidableEq

def Visit.step (visit : Visit) : Step := ⟨visit.node, visit.picked⟩

/-- The trail so far with the step of a visit behind it. -/
def Visit.appendStep (trail : List Step) (visit : Visit) : List Step := trail ++ [visit.step]

namespace Tree

/-- What is written at a step: the character that was picked there, or else the node's own text. -/
def write (t : Tree) (step : Step) : String :=
  ((t.get? step.node).map (·.kind.textOf step.picked)).getD ""

def written (t : Tree) (trail : List Step) : String := String.join (trail.map t.write)

theorem written_concat (t : Tree) (trail : List Step) (step : Step) :
    t.written (trail ++ [step]) = t.written trail ++ t.write step := by
  rw [written, written, List.map_append, String.join_append]
  simp

theorem counterparts_self (t : Tree) (extra : UInt32) :
    t.Counterparts (fun v v' => v = v' ∧ v.text = t.write v.step) extra extra t where
  roots := rfl
  children found found' := by
    cases found.symm.trans found'
    rfl
  course found found' _ _ := by
    cases found.symm.trans found'
    rfl
  visits found found' picked := by
    cases found.symm.trans found'
    exact ⟨rfl, by simp [write, Visit.step, found]⟩

end Tree

namespace Generator

variable {σ : Type} [DrawSource σ]

/-- The trail of a run, and the source after it. -/
def trailFrom (g : Generator) (s : σ) : Except Fault (List Step × σ) :=
  g.noteFrom Visit.appendStep [] s

/-- The text of `drawFrom` is what the tree has `written` along its `trailFrom`. -/
theorem drawFrom_eq_written {t : Tree} (built : t.Built) (extra : UInt32) (s : σ) :
    (⟨t, extra⟩ : Generator).drawFrom s =
      (fun (trail, s) => (t.written trail, s)) <$> (⟨t, extra⟩ : Generator).trailFrom s := by
  have retells : Subtree.Retells (fun v v' => v = v' ∧ v.text = t.write v.step) t.written
      Visit.appendStep Visit.appendTo := by
    rintro v _ ⟨rfl, text⟩ trail
    rw [Visit.appendTo, Visit.appendStep, Tree.written_concat, text]
  exact noteFrom_counterparts built built (t.counterparts_self extra) retells [] s

end Generator

/-! ## Other tokens -/

namespace Tree

/-- The node is a token that is no wildcard: it is no period, or its parent is a choice. -/
def Fixed (t : Tree) (n : Node) : Prop :=
  ∃ token, n.kind = .token token ∧ (token = .period → t.IsChoice n.parent)

/-- The links are the same, and so are the kinds, but that tokens that are no wildcards may be other
    ones. -/
structure SameButText (t u : Tree) : Prop where
  roots : t.roots = u.roots
  nodes : List.Forall₂ (fun n m => n.parent = m.parent ∧ n.children = m.children ∧
    (n.kind = m.kind ∨ t.Fixed n ∧ u.Fixed m)) t.nodes.toList u.nodes.toList

variable {t u : Tree}

theorem course_of_fixed {n : Node} (fixed : t.Fixed n) {inChoice : Bool}
    (place : inChoice = true ↔ t.IsChoice n.parent) (extra : UInt32) :
    n.kind.course extra inChoice = .still := by
  obtain ⟨token, kind, period⟩ := fixed
  rw [kind, NodeKind.course, if_neg]
  intro expands
  obtain ⟨wildcard, outside⟩ : token.isWildcard = true ∧ inChoice = false := by simpa using expands
  have inside : inChoice = true := by
    cases token <;> simp only [Token.isWildcard, Bool.false_eq_true] at wildcard
    exact place.mpr (period rfl)
  simp [outside] at inside

namespace SameButText

theorem symm (same : t.SameButText u) : u.SameButText t where
  roots := same.roots.symm
  nodes := same.nodes.flip.imp fun _ _ ⟨parent, children, kinds⟩ =>
    ⟨parent.symm, children.symm, kinds.imp Eq.symm And.symm⟩

theorem exists_node (same : t.SameButText u) {id : NodeId} {n : Node} (found : t.get? id = some n) :
    ∃ m, u.get? id = some m ∧ n.parent = m.parent ∧ n.children = m.children ∧
      (n.kind = m.kind ∨ t.Fixed n ∧ u.Fixed m) := by
  obtain ⟨length, alike⟩ := List.forall₂_iff_get.mp same.nodes
  rw [get?, ← Array.getElem?_toList, List.getElem?_eq_some_iff] at found
  obtain ⟨before, rfl⟩ := found
  have inside : id < u.nodes.toList.length := length ▸ before
  refine ⟨u.nodes.toList[id], ?_, alike id before inside⟩
  rw [get?, ← Array.getElem?_toList, List.getElem?_eq_getElem]

theorem isChoice (same : t.SameButText u) {parent : Option NodeId} (choice : t.IsChoice parent) :
    u.IsChoice parent := by
  obtain ⟨p, n, rfl, found, kind⟩ := choice
  obtain ⟨m, found', -, -, kinds⟩ := same.exists_node found
  rcases kinds with same_kind | ⟨⟨token, other, -⟩, -⟩
  · exact ⟨p, m, rfl, found', same_kind.symm.trans kind⟩
  · cases kind.symm.trans other

theorem counterparts (same : t.SameButText u) (extra : UInt32) :
    t.Counterparts (fun v v' => v.step = v'.step) extra extra u where
  roots := same.roots
  children found found' := by
    obtain ⟨m, there, -, children, -⟩ := same.exists_node found
    cases there.symm.trans found'
    exact children
  course {id n m} found found' inChoice place := by
    obtain ⟨m, there, parent, -, kinds⟩ := same.exists_node found
    cases there.symm.trans found'
    rcases kinds with kind | ⟨fixed, fixed'⟩
    · rw [kind]
    · have place' : inChoice = true ↔ u.IsChoice m.parent := by
        rw [place, parent]
        exact ⟨same.isChoice, same.symm.isChoice⟩
      rw [course_of_fixed fixed place, course_of_fixed fixed' place']
  visits _ _ _ := rfl

end SameButText

end Tree

namespace Generator

/-- Trees that are `SameButText` have one `trailFrom`, with one source left behind, and the text of
    `drawFrom` over each is what that tree has `written` along it. -/
theorem trail_of_sameButText {t u : Tree} (built : t.Built) (built' : u.Built)
    (same : t.SameButText u) (extra : UInt32) {σ : Type} [DrawSource σ] (s : σ) :
    (⟨u, extra⟩ : Generator).trailFrom s = (⟨t, extra⟩ : Generator).trailFrom s ∧
    (⟨t, extra⟩ : Generator).drawFrom s =
      (fun (trail, s) => (t.written trail, s)) <$> (⟨t, extra⟩ : Generator).trailFrom s ∧
    (⟨u, extra⟩ : Generator).drawFrom s =
      (fun (trail, s) => (u.written trail, s)) <$> (⟨t, extra⟩ : Generator).trailFrom s := by
  have retells : Subtree.Retells (fun v v' => v.step = v'.step) id Visit.appendStep
      Visit.appendStep := by
    intro v v' step trail
    rw [Visit.appendStep, Visit.appendStep, step]
    rfl
  have one : (⟨t, extra⟩ : Generator).trailFrom s = (⟨u, extra⟩ : Generator).trailFrom s :=
    (noteFrom_counterparts built built' (same.counterparts extra) retells [] s).trans (id_map _)
  refine ⟨one.symm, drawFrom_eq_written built extra s, ?_⟩
  rw [one]
  exact drawFrom_eq_written built' extra s

/-- The tree of a token in a set, a token after the set, and a wildcard, as in `[a]b.`. -/
def treeOfTokens (inSet after : Token) : Tree :=
  ⟨#[⟨.opening, none, #[1, 3, 4]⟩, ⟨.choice, some 0, #[2]⟩, ⟨.token inSet, some 1, #[]⟩,
    ⟨.token after, some 0, #[]⟩, ⟨.token .period, some 0, #[]⟩], #[0]⟩

theorem trail_of_other_tokens :
    (⟨treeOfTokens .period (.escape 'd'), 5⟩ : Generator).drawFrom ([7, 7] : List UInt32) =
      .ok (".Z", []) ∧
    (⟨treeOfTokens (.char 'x') (.char 'y'), 5⟩ : Generator).drawFrom ([7, 7] : List UInt32) =
      .ok ("xyZ", []) := by
  have built (a b : Token) : (treeOfTokens a b).Built :=
    ⟨[.root .opening, .push .choice (some 0), .push (.token a) (some 1), .push (.token b) (some 0),
      .push (.token .period) (some 0)], rfl⟩
  have inSet : (treeOfTokens .period (.escape 'd')).IsChoice (some 1) := ⟨1, _, rfl, rfl, rfl⟩
  have same : (treeOfTokens .period (.escape 'd')).SameButText (treeOfTokens (.char 'x') (.char 'y')) := {
    roots := rfl
    nodes := .cons ⟨rfl, rfl, .inl rfl⟩ <| .cons ⟨rfl, rfl, .inl rfl⟩ <|
      .cons ⟨rfl, rfl, .inr ⟨⟨_, rfl, fun _ => inSet⟩, ⟨_, rfl, nofun⟩⟩⟩ <|
      .cons ⟨rfl, rfl, .inr ⟨⟨_, rfl, nofun⟩, ⟨_, rfl, nofun⟩⟩⟩ <|
      .cons ⟨rfl, rfl, .inl rfl⟩ .nil }
  have trail : (⟨treeOfTokens .period (.escape 'd'), 5⟩ : Generator).trailFrom ([7, 7] : List UInt32) =
      .ok ([⟨0, none⟩, ⟨1, some (.child 0)⟩, ⟨2, none⟩, ⟨3, none⟩, ⟨4, some (.char 'Z')⟩], []) := by
    decide +kernel
  obtain ⟨-, text, text'⟩ := trail_of_sameButText (built _ _) (built _ _) same 5 ([7, 7] : List UInt32)
  rw [trail] at text text'
  exact ⟨text, text'⟩

end Generator

end PatternSampler
