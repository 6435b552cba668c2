import Mathlib
import PatternSampler.Proofs.Results
import PatternSampler.Proofs.Tree.Graft
import PatternSampler.Tree.Shape

/-! # What is built from shapes

Shapes are added to a builder in the order in which their nodes are met, so each of them is a piece that is
grafted. Two sorts of problems come up at different times: bounds out of order on the way, and nodes that
lack children at the end. Both are found in the order of the shapes, but those on the way come first.
-/

namespace PatternSampler

open Builder

/-! ## Pieces of shapes -/

theorem Builder.graft_below {ε : Type} {b : Builder} {parent : NodeId} (kind : NodeKind)
    (r : Except ε (List Sprout)) :
    (fun ss => (b.graft parent [.node kind []]).graft b.nextId ss) <$> r =
      (fun s => b.graft parent [s]) <$> (r >>= fun ss => .ok (.node kind ss)) := by
  cases r with
  | error e => rfl
  | ok ss => simp only [Except.map_ok, ok_then, graft_graft_node]

theorem Builder.reaches_of_map_pushUnder {b b' : Builder} {parent : NodeId} {kind : NodeKind}
    (added : (·.2) <$> b.pushUnder parent kind = .ok b') : b.Reaches b' := by
  cases pushed : b.pushUnder parent kind with
  | error e =>
      rw [pushed] at added
      cases added
  | ok result =>
      rw [pushed] at added
      cases added
      exact reaches_of_pushUnder pushed

namespace Shape

mutual

/-- What is added for a shape. -/
def sprout : Shape → Except ValidationError Sprout
  | .token t => .ok (.node (.token t) [])
  | .characterClass first last => do
    let cls ← CharacterClass.ofChars first last
    .ok (.node (.characterClass cls) [])
  | .alternative branches => do .ok (.node .alternative (← sproutAll branches))
  | .group children => do .ok (.node .group (← sproutAll children))
  | .choice children => do .ok (.node .choice (← sproutAll children))
  | .repetition min max inner => do
    let r ← Repetition.ofBounds min max
    .ok (.node (.repetition r) [← inner.sprout])

def sproutAll : List Shape → Except ValidationError (List Sprout)
  | [] => .ok []
  | s :: ss => do .ok ((← s.sprout) :: (← sproutAll ss))

end

mutual

theorem addTo_eq (s : Shape) {b : Builder} {parent : NodeId} (bears : b.Bears parent) :
    s.addTo parent b = (fun piece => b.graft parent [piece]) <$> s.sprout := by
  have inner {kind : NodeKind} (branching : kind.isLeaf = false) :
      (b.graft parent [.node kind []]).Bears b.nextId := bears_graft_node branching
  cases s with
  | token t =>
      rw [addTo, pushUnder_eq_graft bears]
      rfl
  | characterClass first last =>
      rw [addTo, sprout]
      cases CharacterClass.ofChars first last with
      | error e => rfl
      | ok cls =>
          simp only [ok_then, pushUnder_eq_graft bears]
          rfl
  | alternative branches =>
      rw [addTo, pushUnder_eq_graft bears, sprout]
      exact (addAllTo_eq branches (inner rfl)).trans (graft_below .alternative _)
  | group children =>
      rw [addTo, pushUnder_eq_graft bears, sprout]
      exact (addAllTo_eq children (inner rfl)).trans (graft_below .group _)
  | choice children =>
      rw [addTo, pushUnder_eq_graft bears, sprout]
      exact (addAllTo_eq children (inner rfl)).trans (graft_below .choice _)
  | repetition min max s =>
      rw [addTo, sprout]
      cases Repetition.ofBounds min max with
      | error e => rfl
      | ok r =>
          have branching : (NodeKind.repetition r).isLeaf = false := rfl
          simp only [ok_then, pushUnder_eq_graft bears, addTo_eq s (inner branching)]
          cases s.sprout with
          | error e => rfl
          | ok piece => simp only [Except.map_ok, ok_then, graft_graft_node]

theorem addAllTo_eq (ss : List Shape) {b : Builder} {parent : NodeId} (bears : b.Bears parent) :
    addAllTo parent ss b = (fun pieces => b.graft parent pieces) <$> sproutAll ss := by
  cases ss with
  | nil =>
      rw [addAllTo, sproutAll]
      exact congrArg _ graft_nil.symm
  | cons s ss =>
      rw [addAllTo, addTo_eq s bears, sproutAll]
      cases s.sprout with
      | error e => rfl
      | ok piece =>
          refine (addAllTo_eq ss (bears.graft parent [piece])).trans ?_
          simp only [graft_graft bears.lt, List.singleton_append]
          cases sproutAll ss <;> rfl

end

theorem build_eq (body : List Shape) :
    build body = sproutAll body >>= fun ss => (framed ss).finish := by
  have bears : (Builder.empty.root .opening).2.Bears 0 := ⟨_, rfl, rfl⟩
  rw [build]
  refine (congrArg (· >>= _) (addAllTo_eq body bears)).trans ?_
  cases sproutAll body <;> rfl

/-- `Shape.build` is the frame of what `sproutAll` answers. -/
theorem build_of_sproutAll {body : List Shape} {ss : List Sprout} (sprouted : sproutAll body = .ok ss)
    (wf : Sprout.AllWellFormed ss) : build body = .ok (Tree.framed ss) := by
  rw [build_eq, sprouted, ok_then, finish_framed wf]
  rfl

mutual

theorem reaches_addTo (s : Shape) {b b' : Builder} {parent : NodeId}
    (added : s.addTo parent b = .ok b') : b.Reaches b' := by
  cases s with
  | token t => exact reaches_of_map_pushUnder added
  | characterClass first last =>
      obtain ⟨cls, -, added⟩ := then_eq_ok.mp added
      exact reaches_of_map_pushUnder added
  | alternative ss | group ss | choice ss =>
      obtain ⟨⟨id, between⟩, pushed, below⟩ := then_eq_ok.mp added
      exact (reaches_of_pushUnder pushed).trans (reaches_addAllTo ss below)
  | repetition min max inner =>
      obtain ⟨r, -, added⟩ := then_eq_ok.mp added
      obtain ⟨⟨id, between⟩, pushed, below⟩ := then_eq_ok.mp added
      exact (reaches_of_pushUnder pushed).trans (reaches_addTo inner below)

theorem reaches_addAllTo (ss : List Shape) {b b' : Builder} {parent : NodeId}
    (added : addAllTo parent ss b = .ok b') : b.Reaches b' := by
  cases ss with
  | nil =>
      cases added
      exact .refl b
  | cons s ss =>
      obtain ⟨between, first, others⟩ := then_eq_ok.mp added
      exact (reaches_addTo s first).trans (reaches_addAllTo ss others)

end

theorem built_of_build {body : List Shape} {t : Tree} (made : build body = .ok t) : t.Built := by
  obtain ⟨b, added, finished⟩ := then_eq_ok.mp made
  have below := (reaches_root .empty .opening).trans (reaches_addAllTo body added)
  exact Tree.built_of_reaches (below.trans (reaches_root b .closing)) finished

theorem sproutAll_cons {s : Shape} {ss : List Shape} {piece : Sprout} {pieces : List Sprout}
    (first : s.sprout = .ok piece) (others : sproutAll ss = .ok pieces) :
    sproutAll (s :: ss) = .ok (piece :: pieces) := by
  rw [sproutAll, first, others]
  rfl

theorem sproutAll_alternative {ss : List Shape} {pieces : List Sprout}
    (below : sproutAll ss = .ok pieces) :
    sproutAll [.alternative ss] = .ok [.node .alternative pieces] := by
  refine sproutAll_cons ?_ rfl
  rw [sprout, below]
  rfl

end Shape

/-! ## Nodes that lack children -/

/-- The problem of a node that has no children where it needs some. -/
def Node.lack? (n : Node) : Option ValidationError :=
  if n.kind.needsChildren && n.children.isEmpty then some (.emptyNode n.kind.name) else none

/-- `Builder.finish` fails with the first `lack?` among its nodes. -/
theorem Builder.meets_finish (b : Builder) : Meets (b.nodes.toList.filterMap Node.lack?) b.finish := by
  rw [finish, ← Array.find?_toList]
  cases found : b.nodes.toList.find? fun n => n.kind.needsChildren && n.children.isEmpty with
  | none =>
      have none_lacks : b.nodes.toList.filterMap Node.lack? = [] := by
        rw [List.filterMap_eq_nil_iff]
        intro n member
        rw [Node.lack?, if_neg (List.find?_eq_none.mp found n member)]
      rw [none_lacks]
      exact .of_ok _
  | some n =>
      obtain ⟨lacks, before, after, split, earlier⟩ := List.find?_eq_some_iff_append.mp found
      have none_before : before.filterMap Node.lack? = [] := by
        rw [List.filterMap_eq_nil_iff]
        intro m member
        have sound := earlier m member
        rw [Bool.not_eq_true'] at sound
        rw [Node.lack?, sound, if_neg Bool.false_ne_true]
      have here : n.lack? = some (.emptyNode n.kind.name) := if_pos lacks
      rw [split, List.filterMap_append, none_before, List.nil_append, List.filterMap_cons_some here]
      rfl

theorem Node.lack?_of_pieces {kind : NodeKind} {parent : Option NodeId} {id : NodeId} {ss : List Sprout} :
    Node.lack? ⟨kind, parent, (Sprout.ids id ss).toArray⟩ =
      if kind.needsChildren && ss.isEmpty then some (.emptyNode kind.name) else none := by
  cases ss <;> rfl

/-! ## Problems of shapes -/

theorem CharacterClass.ofChars_eq (first last : Char) : ofChars first last =
    if ordered : first ≤ last then .ok ⟨.char first, .char last, rfl, rfl, ordered⟩
    else .error (.emptyRange first last) := rfl

namespace Shape

mutual

/-- A shape and then the shapes inside it, from left to right. -/
def preorder : Shape → List Shape
  | .token t => [.token t]
  | .characterClass first last => [.characterClass first last]
  | .alternative branches => .alternative branches :: preorderAll branches
  | .group children => .group children :: preorderAll children
  | .choice children => .choice children :: preorderAll children
  | .repetition min max inner => .repetition min max inner :: inner.preorder

def preorderAll : List Shape → List Shape
  | [] => []
  | s :: ss => s.preorder ++ preorderAll ss

end

/-- The bounds of the shape itself are in order, and it has the children that it needs. -/
def Sound : Shape → Prop
  | .token _ => True
  | .characterClass first last => first ≤ last
  | .repetition min max _ => ∀ m ∈ max, min ≤ m
  | .alternative ss | .group ss | .choice ss => ss ≠ []

/-- The problem of the bounds of a shape. -/
def disorder? : Shape → Option ValidationError
  | .characterClass first last => if last < first then some (.emptyRange first last) else none
  | .repetition min (some max) _ => if max < min then some (.invertedBounds min max) else none
  | _ => none

/-- The problem of a shape that has no children where it needs some. -/
def lack? : Shape → Option ValidationError
  | .alternative [] => some (.emptyNode "alternative")
  | .group [] | .choice [] => some (.emptyNode "block")
  | _ => none

theorem sound_iff (s : Shape) : s.Sound ↔ s.disorder? = none ∧ s.lack? = none := by
  cases s with
  | token t => simp [Sound, disorder?, lack?]
  | characterClass first last => simp [Sound, disorder?, lack?]
  | repetition min max inner => cases max <;> simp [Sound, disorder?, lack?]
  | alternative ss | group ss | choice ss => cases ss <;> simp [Sound, disorder?, lack?]

theorem exists_of_disorder? {s : Shape} {e : ValidationError} (problem : s.disorder? = some e) :
    (∃ first last, last < first ∧ e = .emptyRange first last) ∨
      ∃ min max, max < min ∧ e = .invertedBounds min max := by
  cases s with
  | characterClass first last =>
      obtain ⟨inverted, same⟩ := Option.ite_none_right_eq_some.mp problem
      exact .inl ⟨first, last, inverted, (Option.some.inj same).symm⟩
  | repetition min max inner =>
      cases max with
      | none => cases problem
      | some max =>
          obtain ⟨inverted, same⟩ := Option.ite_none_right_eq_some.mp problem
          exact .inr ⟨min, max, inverted, (Option.some.inj same).symm⟩
  | token | alternative | group | choice => cases problem

theorem exists_of_lack? {s : Shape} {e : ValidationError} (problem : s.lack? = some e) :
    ∃ kindName, e = .emptyNode kindName := by
  cases s with
  | alternative ss | group ss | choice ss =>
      cases ss <;> cases problem
      exact ⟨_, rfl⟩
  | token | characterClass | repetition => cases problem

mutual

/-- `Shape.sprout` fails with the first `disorder?` in preorder. -/
theorem meets_sprout (s : Shape) : Meets (s.preorder.filterMap disorder?) s.sprout := by
  cases s with
  | token t => exact .of_ok _
  | characterClass first last =>
      rw [preorder, sprout, CharacterClass.ofChars_eq]
      by_cases ordered : first ≤ last
      · rw [dif_pos ordered, ok_then]
        simpa [disorder?, not_lt.mpr ordered] using Meets.of_ok _
      · rw [dif_neg ordered]
        simp [disorder?, not_le.mp ordered, Meets, error_then]
  | alternative ss | group ss | choice ss =>
      exact (meets_sproutAll ss).bind_ok fun pieces _ => ⟨_, rfl⟩
  | repetition min max inner =>
      have below (r : Repetition) : Meets (inner.preorder.filterMap disorder?)
          (inner.sprout >>= fun piece => .ok (Sprout.node (.repetition r) [piece])) :=
        (meets_sprout inner).bind_ok fun piece _ => ⟨_, rfl⟩
      cases max with
      | none => exact below _
      | some max =>
          rw [preorder, sprout, Repetition.ofBounds]
          by_cases ordered : min ≤ max
          · rw [dif_pos ordered, ok_then]
            simpa [disorder?, UInt32.not_lt.mpr ordered] using below ⟨min, some max, by simpa⟩
          · rw [dif_neg ordered, error_then]
            simp [disorder?, UInt32.not_le.mp ordered, Meets]

theorem meets_sproutAll (ss : List Shape) : Meets ((preorderAll ss).filterMap disorder?) (sproutAll ss) := by
  cases ss with
  | nil => exact .of_ok []
  | cons s ss =>
      rw [preorderAll, List.filterMap_append]
      exact (meets_sprout s).bind fun piece _ => (meets_sproutAll ss).bind_ok fun pieces _ => ⟨_, rfl⟩

end

theorem isEmpty_of_sproutAll {ss : List Shape} {pieces : List Sprout}
    (sprouted : sproutAll ss = .ok pieces) : pieces.isEmpty = ss.isEmpty := by
  cases ss with
  | nil =>
      cases sprouted
      rfl
  | cons s ss =>
      obtain ⟨piece, -, sprouted⟩ := then_eq_ok.mp sprouted
      obtain ⟨pieces, -, sprouted⟩ := then_eq_ok.mp sprouted
      cases sprouted
      rfl

mutual

/-- The nodes of a piece lack children where its shapes do, in the same order. -/
theorem filterMap_nodes (s : Shape) {piece : Sprout} (sprouted : s.sprout = .ok piece) (id : NodeId)
    (parent : Option NodeId) :
    (piece.nodes id parent).filterMap Node.lack? = s.preorder.filterMap lack? := by
  cases s with
  | token t =>
      cases sprouted
      rfl
  | characterClass first last =>
      obtain ⟨cls, -, sprouted⟩ := then_eq_ok.mp sprouted
      cases sprouted
      rfl
  | alternative ss | group ss | choice ss =>
      obtain ⟨pieces, below, sprouted⟩ := then_eq_ok.mp sprouted
      cases sprouted
      rw [preorder, Sprout.nodes, List.filterMap_cons, List.filterMap_cons,
        filterMap_nodesAll ss below, Node.lack?_of_pieces, isEmpty_of_sproutAll below]
      cases ss <;> rfl
  | repetition min max inner =>
      obtain ⟨r, -, sprouted⟩ := then_eq_ok.mp sprouted
      obtain ⟨piece, below, sprouted⟩ := then_eq_ok.mp sprouted
      cases sprouted
      rw [preorder, Sprout.nodes, List.filterMap_cons, List.filterMap_cons, Node.lack?_of_pieces,
        Sprout.nodesAll, Sprout.nodesAll, List.append_nil, filterMap_nodes inner below]
      rfl

theorem filterMap_nodesAll (ss : List Shape) {pieces : List Sprout} (sprouted : sproutAll ss = .ok pieces)
    (id : NodeId) (parent : Option NodeId) :
    (Sprout.nodesAll id parent pieces).filterMap Node.lack? = (preorderAll ss).filterMap lack? := by
  cases ss with
  | nil =>
      cases sprouted
      rfl
  | cons s ss =>
      obtain ⟨piece, first, sprouted⟩ := then_eq_ok.mp sprouted
      obtain ⟨pieces, others, sprouted⟩ := then_eq_ok.mp sprouted
      cases sprouted
      rw [preorderAll, Sprout.nodesAll, List.filterMap_append, List.filterMap_append,
        filterMap_nodes s first, filterMap_nodesAll ss others]

end

/-- `Shape.build` fails with the first `disorder?`, or else with the first `lack?`. -/
theorem meets_build (body : List Shape) :
    Meets ((preorderAll body).filterMap disorder? ++ (preorderAll body).filterMap lack?) (build body) := by
  rw [build_eq]
  refine (meets_sproutAll body).bind fun pieces sprouted => ?_
  have framed_lacks : (framed pieces).nodes.toList.filterMap Node.lack? =
      (preorderAll body).filterMap lack? := by
    rw [nodes_framed, List.filterMap_append, List.filterMap_append, filterMap_nodesAll body sprouted]
    simp [Node.lack?, NodeKind.needsChildren]
  rw [← framed_lacks]
  exact (framed pieces).meets_finish

/-- `Shape.build` succeeds exactly if all shapes are `Sound`. It fails with the first `disorder?` in
    preorder or, if there is none, with the first `lack?`, and never because of a parent. -/
theorem build_meets_shapes (body : List Shape) :
    ((∃ t, build body = .ok t) ↔ ∀ s ∈ preorderAll body, s.Sound) ∧
      (∀ e, build body = .error e ↔
        ((preorderAll body).findSome? disorder?).or ((preorderAll body).findSome? lack?) = some e) ∧
      ∀ e, build body = .error e →
        (∃ first last, last < first ∧ e = .emptyRange first last) ∨
          (∃ min max, max < min ∧ e = .invertedBounds min max) ∨ ∃ kindName, e = .emptyNode kindName := by
  have meets := meets_build body
  have refused (e : ValidationError) : build body = .error e ↔
      ((preorderAll body).findSome? disorder?).or ((preorderAll body).findSome? lack?) = some e := by
    rw [meets.error_iff, List.head?_append, List.head?_filterMap, List.head?_filterMap]
  refine ⟨?_, refused, fun e failed => ?_⟩
  · rw [meets.ok_iff, List.append_eq_nil_iff, List.filterMap_eq_nil_iff, List.filterMap_eq_nil_iff,
      ← forall₂_and]
    exact forall₂_congr fun s _ => (sound_iff s).symm
  · rcases Option.or_eq_some_iff.mp ((refused e).mp failed) with disorder | ⟨-, lack⟩
    · obtain ⟨s, -, problem⟩ := List.exists_of_findSome?_eq_some disorder
      exact (exists_of_disorder? problem).imp_right .inl
    · obtain ⟨s, -, problem⟩ := List.exists_of_findSome?_eq_some lack
      exact .inr (.inr (exists_of_lack? problem))

example : build [.group [], .repetition 3 (some 1) (.characterClass 'z' 'a')] =
    .error (.invertedBounds 3 1) := rfl

end Shape

end PatternSampler
