import Mathlib
import PatternSampler.Proofs.Generator.Counterparts

/-! # Windows of unbounded repetitions

The count of a repetition without a maximum goes from its minimum up to so much above it. Written into
the tree as a maximum, this window draws the same counts, so what is asked for otherwise only matters
to trees with such repetitions.
-/

namespace PatternSampler

/-! ## Trees with other kinds -/

def Node.mapKind (f : NodeKind → NodeKind) (n : Node) : Node := { n with kind := f n.kind }

def Tree.mapKind (f : NodeKind → NodeKind) (t : Tree) : Tree := ⟨t.nodes.map (·.mapKind f), t.roots⟩

/-- Kinds are replaced by kinds of which the same is asked when a tree is built. -/
structure NodeKind.Replaces (f : NodeKind → NodeKind) : Prop where
  isLeaf : ∀ kind, (f kind).isLeaf = kind.isLeaf
  needsChildren : ∀ kind, (f kind).needsChildren = kind.needsChildren

theorem Tree.get?_mapKind {f : NodeKind → NodeKind} {t : Tree} {id : NodeId} :
    (t.mapKind f).get? id = (t.get? id).map (·.mapKind f) := by
  rw [get?, mapKind, Array.getElem?_map]
  rfl

namespace Builder

variable {f : NodeKind → NodeKind}

def mapKind (f : NodeKind → NodeKind) (b : Builder) : Builder := ⟨b.nodes.map (·.mapKind f), b.roots⟩

def Call.mapKind (f : NodeKind → NodeKind) : Call → Call
  | .root kind => .root (f kind)
  | .push kind parent => .push (f kind) parent

theorem withChild_mapKind (nodes : Array Node) (parent : NodeId) (kind : NodeKind) :
    withChild (nodes.map (·.mapKind f)) parent (f kind) =
      (withChild nodes parent kind).map (·.mapKind f) := by
  have modified : (nodes.map (·.mapKind f)).modify parent
        (fun n => { n with children := n.children.push nodes.size }) =
      (nodes.modify parent fun n => { n with children := n.children.push nodes.size }).map
        (·.mapKind f) := by
    apply Array.ext_getElem?
    intro i
    rw [Array.getElem?_modify, Array.getElem?_map, Array.getElem?_map, Array.getElem?_modify]
    split <;> cases nodes[i]? <;> rfl
  rw [withChild, withChild, Array.map_push, Array.size_map, modified]
  rfl

theorem call_mapKind (replaces : NodeKind.Replaces f) (b : Builder) (c : Call) :
    (b.mapKind f).call (c.mapKind f) = (b.call c).mapKind f := by
  have rooted (kind : NodeKind) : ((b.mapKind f).root (f kind)).2 = (b.root kind).2.mapKind f := by
    simp [root, mapKind, nextId, Node.mapKind]
  cases c with
  | root kind => exact rooted kind
  | push kind parent =>
      cases parent with
      | none => exact rooted kind
      | some parent =>
          rw [Call.mapKind, call, call, push, push]
          cases found : b.nodes[parent]? with
          | none => simp [pushUnder, mapKind, found]
          | some n =>
              cases leaf : n.kind.isLeaf with
              | true => simp [pushUnder, mapKind, found, leaf, Node.mapKind, replaces.isLeaf]
              | false =>
                have inner : (f n.kind).isLeaf = false := by rw [replaces.isLeaf, leaf]
                have found' : (b.mapKind f).nodes[parent]? = some (n.mapKind f) := by
                  rw [mapKind, Array.getElem?_map, found]
                  rfl
                rw [pushUnder_eq_ok.mpr ⟨n, found, leaf, rfl, rfl⟩,
                  pushUnder_eq_ok.mpr ⟨_, found', inner, rfl, rfl⟩]
                exact congrArg (Builder.mk · b.roots) (withChild_mapKind b.nodes parent kind)

theorem ofCalls_mapKind (replaces : NodeKind.Replaces f) (calls : List Call) :
    ofCalls (calls.map (·.mapKind f)) = (ofCalls calls).mapKind f := by
  have from_any (b : Builder) :
      (calls.map (·.mapKind f)).foldl call (b.mapKind f) = (calls.foldl call b).mapKind f := by
    induction calls generalizing b with
    | nil => rfl
    | cons c calls ih => rw [List.map_cons, List.foldl_cons, List.foldl_cons, call_mapKind replaces, ih]
  have start : empty.mapKind f = empty := by simp [mapKind, empty]
  rw [ofCalls, ← start, from_any]
  rfl

theorem finish_mapKind (replaces : NodeKind.Replaces f) {b : Builder} {t : Tree}
    (finished : b.finish = .ok t) : (b.mapKind f).finish = .ok (t.mapKind f) := by
  let lacks (n : Node) : Bool := n.kind.needsChildren && n.children.isEmpty
  have same : lacks ∘ Node.mapKind f = lacks :=
    funext fun n => congrArg (· && n.children.isEmpty) (replaces.needsChildren n.kind)
  have found : (b.mapKind f).nodes.find? lacks = (b.nodes.find? lacks).map (·.mapKind f) := by
    rw [mapKind, Array.find?_map]
    exact congrArg (fun lacks => (b.nodes.find? lacks).map (·.mapKind f)) same
  rw [finish] at finished ⊢
  rw [found]
  split at finished
  · cases finished
  · rename_i none_lacks
    cases finished
    rw [none_lacks]
    rfl

end Builder

theorem Tree.Built.mapKind {f : NodeKind → NodeKind} (replaces : NodeKind.Replaces f) {t : Tree}
    (built : t.Built) : (t.mapKind f).Built := by
  obtain ⟨calls, finished⟩ := built
  refine ⟨calls.map (·.mapKind f), ?_⟩
  rw [Builder.ofCalls_mapKind replaces, Builder.finish_mapKind replaces finished]

/-! ## Windows -/

/-- The sum of two words, or the largest word where the sum does not fit. -/
def saturatingSum (a b : UInt32) : UInt32 := if a + b < a then UInt32.ofNat (UInt32.size - 1) else a + b

theorem toNat_saturatingSum (a b : UInt32) :
    (saturatingSum a b).toNat = min (a.toNat + b.toNat) (UInt32.size - 1) := by
  have a_lt : a.toNat < UInt32.size := a.toNat_lt
  have b_lt : b.toNat < UInt32.size := b.toNat_lt
  have sum : (a + b).toNat = (a.toNat + b.toNat) % UInt32.size := UInt32.toNat_add a b
  -- The sum wraps around at most once, and then it ends below both of its parts.
  have wraps : a + b < a ↔ UInt32.size ≤ a.toNat + b.toNat := by
    rw [UInt32.lt_iff_toNat_lt, sum]
    simp only [UInt32.size] at *
    omega
  rw [saturatingSum]
  split
  · rename_i wrapped
    have largest : (UInt32.ofNat (UInt32.size - 1)).toNat = UInt32.size - 1 := rfl
    have := wraps.mp wrapped
    omega
  · rename_i fits
    have := mt wraps.mpr fits
    rw [sum, Nat.mod_eq_of_lt (by omega)]
    omega

theorem le_saturatingSum (a b : UInt32) : a ≤ saturatingSum a b := by
  have a_lt : a.toNat < UInt32.size := a.toNat_lt
  rw [UInt32.le_iff_toNat_le, toNat_saturatingSum]
  omega

/-- The repetition with its window for a maximum if it has none. -/
def Repetition.windowed (extra : UInt32) (r : Repetition) : Repetition :=
  if r.isUnbounded then
    ⟨r.min, some (saturatingSum r.min extra), by simpa using le_saturatingSum r.min extra⟩
  else r

namespace Repetition

theorem min_windowed (extra : UInt32) (r : Repetition) : (r.windowed extra).min = r.min := by
  rw [windowed]
  split <;> rfl

theorem largest_windowed (extra extra' : UInt32) (r : Repetition) :
    (r.windowed extra).largest extra' = r.largest extra := by
  rw [windowed]
  cases bound : r.max with
  | none => simpa [isUnbounded, largest, bound] using toNat_saturatingSum r.min extra
  | some most => simp [isUnbounded, largest, bound]

theorem windowed_of_bounded {extra : UInt32} {r : Repetition} (bounded : r.isUnbounded = false) :
    r.windowed extra = r := by
  rw [windowed, bounded]
  rfl

end Repetition

namespace NodeKind

def windowed (extra : UInt32) : NodeKind → NodeKind
  | repetition r => repetition (r.windowed extra)
  | kind => kind

theorem windowed_of_bounded {extra : UInt32} {kind : NodeKind}
    (bounded : ∀ r, kind = repetition r → r.isUnbounded = false) : kind.windowed extra = kind := by
  cases kind with
  | repetition r => rw [windowed, Repetition.windowed_of_bounded (bounded r rfl)]
  | _ => rfl

theorem windowed_replaces (extra : UInt32) : Replaces (windowed extra) where
  isLeaf kind := by cases kind <;> rfl
  needsChildren kind := by cases kind <;> rfl

theorem course_windowed (extra extra' : UInt32) (inChoice : Bool) (kind : NodeKind) :
    (kind.windowed extra).course extra' inChoice = kind.course extra inChoice := by
  cases kind with
  | repetition r => rw [windowed, course, course, r.min_windowed, r.largest_windowed]
  | _ => rfl

theorem textOf_windowed (extra : UInt32) (kind : NodeKind) (picked : Option Picked) :
    (kind.windowed extra).textOf picked = kind.textOf picked := by
  cases picked with
  | none => cases kind <;> rfl
  | some picked => cases picked <;> rfl

end NodeKind

namespace Tree

/-- The tree with windows for maxima where there are none. -/
def windowed (extra : UInt32) (t : Tree) : Tree := t.mapKind (NodeKind.windowed extra)

/-- Every repetition has a maximum. -/
def Bounded (t : Tree) : Prop :=
  ∀ n ∈ t.nodes, ∀ r, n.kind = .repetition r → r.isUnbounded = false

theorem windowed_of_bounded {t : Tree} (bounded : t.Bounded) (extra : UInt32) :
    t.windowed extra = t := by
  have same : ∀ n ∈ t.nodes, n.mapKind (NodeKind.windowed extra) = id n := by
    intro n member
    rw [Node.mapKind, NodeKind.windowed_of_bounded (bounded n member)]
    rfl
  rw [windowed, mapKind, Array.map_congr_left same, Array.map_id]

theorem counterparts_windowed (t : Tree) (extra extra' : UInt32) :
    (t.windowed extra).Counterparts Eq extra' extra t := by
  have windowed_of {id : NodeId} {n m : Node} (found : (t.windowed extra).get? id = some n)
      (found' : t.get? id = some m) : n = m.mapKind (NodeKind.windowed extra) := by
    rw [windowed, get?_mapKind, found'] at found
    exact (Option.some.inj found).symm
  exact {
    roots := rfl
    children := fun found found' => by
      rw [windowed_of found found']
      rfl
    course := fun found found' inChoice _ => by
      rw [windowed_of found found']
      exact NodeKind.course_windowed extra extra' inChoice _
    visits := fun found found' picked => by
      rw [windowed_of found found']
      exact congrArg (Visit.mk _ picked) (NodeKind.textOf_windowed extra _ picked) }

end Tree

namespace Generator

/-- `drawFrom` over `Tree.windowed` is `drawFrom` over the tree with the same window. -/
theorem drawFrom_windowed {σ : Type} [DrawSource σ] {t : Tree} (built : t.Built)
    (extra extra' : UInt32) (s : σ) :
    (⟨t.windowed extra, extra'⟩ : Generator).drawFrom s = (⟨t, extra⟩ : Generator).drawFrom s := by
  have retells : Subtree.Retells Eq id Visit.appendTo Visit.appendTo := by
    rintro v _ rfl text
    rfl
  have built' : (t.windowed extra).Built := built.mapKind (NodeKind.windowed_replaces extra)
  have same := noteFrom_counterparts built' built (t.counterparts_windowed extra extra') retells "" s
  rw [drawFrom_eq_noteFrom, drawFrom_eq_noteFrom]
  exact same.trans (id_map _)

theorem tree_generate_eq (t : Tree) (seed : UInt64) :
    t.generate seed = (⟨t, defaultExtra⟩ : Generator).generate seed := by
  rw [Tree.generate, generate, drawFrom]
  cases t.subtrees <;> rfl

/-- The window of a generator only sets the maxima of `Tree.windowed`. Over a `Bounded` tree, where every
    repetition has a maximum of its own, it makes no difference. -/
theorem generate_windowed {t : Tree} (built : t.Built) (extra : UInt32) :
    (t.windowed extra).Built ∧
    (∀ {σ : Type} [DrawSource σ] (extra' : UInt32) (s : σ),
      (⟨t.windowed extra, extra'⟩ : Generator).drawFrom s = (⟨t, extra⟩ : Generator).drawFrom s) ∧
    (t.Bounded → ∀ {σ : Type} [DrawSource σ] (extra' : UInt32) (s : σ),
      (⟨t, extra'⟩ : Generator).drawFrom s = (⟨t, extra⟩ : Generator).drawFrom s) ∧
    (t.Bounded ∨ extra = 5 → ∀ seed : UInt64,
      t.generate seed = ((⟨t, defaultExtra⟩ : Generator).withExtra extra).generate seed) := by
  have unaffected (bounded : t.Bounded) {σ : Type} [DrawSource σ] (extra' : UInt32) (s : σ) :
      (⟨t, extra'⟩ : Generator).drawFrom s = (⟨t, extra⟩ : Generator).drawFrom s := by
    have same := drawFrom_windowed built extra extra' s
    rwa [Tree.windowed_of_bounded bounded] at same
  refine ⟨built.mapKind (NodeKind.windowed_replaces extra), drawFrom_windowed built extra, unaffected,
    fun either seed => ?_⟩
  rw [tree_generate_eq, generate, generate]
  rcases either with bounded | rfl
  · exact congrArg ((·.1) <$> ·) (unaffected bounded defaultExtra (Seeded.ofSeed seed))
  · rfl

/-- The tree of a letter that occurs at least as often as a word can say. -/
def treeOfMost : Tree :=
  ⟨#[⟨.opening, none, #[1]⟩, ⟨.repetition (.atLeast 4294967295), some 0, #[2]⟩,
    ⟨.token (.char 'x'), some 1, #[]⟩], #[0]⟩

theorem generate_windowed_most : ∃ u : Tree,
    u.get? 1 = some ⟨.repetition (.exactly 4294967295), some 0, #[2]⟩ ∧
    (∀ s : Seeded, (⟨u, 0⟩ : Generator).drawFrom s = (⟨treeOfMost, 5⟩ : Generator).drawFrom s) ∧
    ∀ seed, treeOfMost.generate seed = (⟨treeOfMost, 5⟩ : Generator).generate seed := by
  have built : treeOfMost.Built :=
    ⟨[.root .opening, .push (.repetition (.atLeast 4294967295)) (some 0),
      .push (.token (.char 'x')) (some 1)], rfl⟩
  obtain ⟨-, same, -, plain⟩ := generate_windowed built 5
  have largest : (treeOfMost.windowed 5).get? 1 =
      some ⟨.repetition (.exactly 4294967295), some 0, #[2]⟩ := by
    rw [Tree.windowed, Tree.get?_mapKind]
    rfl
  exact ⟨treeOfMost.windowed 5, largest, fun s => same 0 s, plain (.inr rfl)⟩

end Generator

end PatternSampler
