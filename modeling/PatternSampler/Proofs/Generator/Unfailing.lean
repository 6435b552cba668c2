import Mathlib
import PatternSampler.Proofs.Generator.Windows
import PatternSampler.Proofs.Parse.Shapes
import PatternSampler.Proofs.Random.Unfailing

/-! # Runs that do not fail

A finished tree leads nowhere that is not in it, and what its nodes pick from is never empty: the ends of
classes and the bounds of repetitions are in order, and who has to pick a child has one. So a run can
only fail for want of draws. It goes no deeper than the tree has nodes.
-/

namespace PatternSampler

/-! ## Trees that there are -/

/-- The ways to come by a tree. -/
inductive Tree.Obtained (t : Tree) : Prop where
  | finished {calls : List Builder.Call} (made : (Builder.ofCalls calls).finish = .ok t)
  | parsed {pattern : String} (made : parse pattern = .ok t)
  | shaped {body : List Shape} (made : Shape.build body = .ok t)

theorem Tree.Obtained.built {t : Tree} (obtained : t.Obtained) : t.Built := by
  cases obtained with
  | finished made => exact ⟨_, made⟩
  | parsed made =>
      obtain ⟨ts, p, -, whole, made⟩ := parse_eq_ok.mp made
      exact Pattern.built_of_tree whole made
  | shaped made => exact Shape.built_of_build made

/-! ## Ranges -/

theorem CharacterClass.bounds (cls : CharacterClass) :
    cls.first.literal? = some cls.lo ∧ cls.last.literal? = some cls.hi ∧ cls.lo ≤ cls.hi :=
  ⟨(Option.some_get _).symm, (Option.some_get _).symm, cls.ordered⟩

namespace Repetition

variable (r : Repetition) (extra : UInt32)

theorem largest_of_unbounded (unbounded : r.max = none) :
    r.largest extra = (saturatingSum r.min extra).toNat := by
  rw [toNat_saturatingSum, largest, unbounded]

theorem exists_largest : ∃ most : UInt32, r.largest extra = most.toNat ∧ r.min ≤ most := by
  cases bound : r.max with
  | none => exact ⟨_, r.largest_of_unbounded extra bound, le_saturatingSum r.min extra⟩
  | some most => exact ⟨most, by rw [largest, bound], r.ordered most bound⟩

theorem min_le_largest : r.min.toNat ≤ r.largest extra := by
  obtain ⟨most, same, le⟩ := r.exists_largest extra
  rw [same]
  exact UInt32.le_iff_toNat_le.mp le

theorem largest_lt : r.largest extra < UInt32.size := by
  obtain ⟨most, same, -⟩ := r.exists_largest extra
  rw [same]
  exact most.toNat_lt

end Repetition

/-- What is picked from is not empty, and takes no more than one draw. -/
def Course.Satisfiable : Course → Prop
  | oneChar lo hi => lo ≤ hi
  | copies least most => least ≤ most ∧ most < UInt32.size
  | through | oneChild _ | still => True

theorem NodeKind.course_satisfiable (extra : UInt32) (inChoice : Bool) (kind : NodeKind) :
    (kind.course extra inChoice).Satisfiable := by
  cases kind with
  | characterClass cls => exact cls.bounds.2.2
  | repetition r => exact ⟨r.min_le_largest extra, r.largest_lt extra⟩
  | token t =>
      rw [course]
      split
      · exact (by decide : wildcardBounds.1 ≤ wildcardBounds.2)
      · trivial
  | _ => trivial

/-! ## Runs -/

namespace Subtree

theorem unfailing_iterate {β : Type} {step : β → Draws β} (each : ∀ b, Unfailing (step b)) (n : Nat)
    (b : β) : Unfailing fun σ _ s => iterate (fun (b, s) => step b σ s) n (b, s) := by
  induction n generalizing b with
  | zero => exact .pure b
  | succ n ih =>
      refine ((each b).andThen fun b' _ => ih b').congr fun s => ?_
      rw [iterate, Draws.andThen]
      dsimp only
      cases step b _ s <;> rfl

variable {β : Type} (note : β → Visit → β) (extra : UInt32)

theorem unfailing_pickChild {next : Nat → β → Draws β} (each : ∀ index b, Unfailing (next index b))
    (id : NodeId) (count : Nat) (b : β) :
    Unfailing fun σ _ s =>
      match pickChild note id count b s with
      | .error e => .error e
      | .ok (index, b, s) => next index b σ s := by
  by_cases none : count = 0
  · simp only [pickChild, if_pos none]
    exact each 0 _
  · simp only [pickChild, if_neg none]
    refine ((Pick.unfailing_place none).andThen fun index _ =>
      each index (note b ⟨id, some (.child index), ""⟩)).congr fun s => ?_
    rw [Draws.andThen]
    cases Pick.place count s <;> rfl

mutual

/-- `run` is `Unfailing` over every subtree. -/
theorem unfailing_run (inChoice : Bool) (st : Subtree) (b : β) :
    Unfailing fun _ _ s => run note extra inChoice st b s := by
  cases st with
  | node id kind children =>
      have satisfiable := kind.course_satisfiable extra inChoice
      simp only [run_node]
      cases own : kind.course extra inChoice with
      | through => exact unfailing_runAll false children _
      | oneChild within =>
          refine (unfailing_pickChild note (unfailing_runNth within children) id children.length b).congr
            fun s => ?_
          cases pickChild note id children.length b s <;> rfl
      | oneChar lo hi =>
          rw [own] at satisfiable
          let noted (c : Char) : β := note b ⟨id, some (.char c), kind.textOf (some (.char c))⟩
          refine ((Pick.unfailing_char satisfiable).andThen fun c _ => .pure (noted c)).congr fun s => ?_
          simp only [Draws.andThen]
          cases Pick.char lo hi s <;> rfl
      | copies least most =>
          rw [own] at satisfiable
          have fits : most - least < 2 ^ 32 := (Nat.sub_le _ _).trans_lt satisfiable.2
          let noted (n : Nat) : β := note b ⟨id, some (.count n), kind.textOf (some (.count n))⟩
          refine ((Pick.unfailing_number satisfiable.1 fits).andThen fun n _ =>
            unfailing_iterate (unfailing_runAll false children) n (noted n)).congr fun s => ?_
          simp only [Draws.andThen]
          cases Pick.number least most s <;> rfl
      | still => exact .pure _

theorem unfailing_runAll (inChoice : Bool) (ss : List Subtree) (b : β) :
    Unfailing fun _ _ s => runAll note extra inChoice ss b s := by
  cases ss with
  | nil => exact .pure b
  | cons st ss =>
      refine ((unfailing_run inChoice st b).andThen fun b' _ =>
        unfailing_runAll inChoice ss b').congr fun s => ?_
      rw [runAll, Draws.andThen]
      cases run note extra inChoice st b s <;> rfl

theorem unfailing_runNth (inChoice : Bool) (ss : List Subtree) (index : Nat) (b : β) :
    Unfailing fun _ _ s => runNth note extra inChoice ss index b s := by
  cases ss with
  | nil => exact .pure b
  | cons st ss =>
      cases index with
      | zero => exact unfailing_run inChoice st b
      | succ index => exact unfailing_runNth inChoice ss index b

end

/-! ## Depth -/

mutual

/-- How many nodes are on the longest way down, which is how deep a run goes. -/
def height : Subtree → Nat
  | node _ _ children => heightAll children + 1

def heightAll : List Subtree → Nat
  | [] => 0
  | s :: ss => max s.height (heightAll ss)

end

variable {t : Tree}

mutual

theorem height_le (linked : Linked t.nodes t.roots) {parent : Option NodeId} (st : Subtree)
    (sits : st.SitsIn t parent) : st.id + st.height ≤ t.size := by
  cases st with
  | node id kind children =>
      obtain ⟨found, below⟩ := sits
      -- Ids go up on the way down, so what is below has only the ids behind this one.
      have after : ∀ s ∈ children, id + 1 ≤ s.id := by
        intro s member
        have child : s.id ∈ (children.map Subtree.id).toArray := by simpa using ⟨s, member, rfl⟩
        exact linked.lt_child found child
      have inside : id + 1 ≤ t.size := Linked.lt_size found
      have rest := heightAll_le linked children below inside after
      rw [Subtree.id, height, Nat.add_comm (heightAll children), ← Nat.add_assoc]
      exact rest

theorem heightAll_le (linked : Linked t.nodes t.roots) {parent : Option NodeId} (ss : List Subtree)
    (sit : AllSitIn t parent ss) {floor : Nat} (inside : floor ≤ t.size)
    (above : ∀ s ∈ ss, floor ≤ s.id) : floor + heightAll ss ≤ t.size := by
  cases ss with
  | nil => exact inside
  | cons s ss =>
      have first : floor + s.height ≤ t.size :=
        (Nat.add_le_add_right (above s List.mem_cons_self) _).trans (height_le linked s sit.1)
      have others := heightAll_le linked ss sit.2 inside fun s member => above s (.tail _ member)
      rw [heightAll]
      omega

end

end Subtree

/-! ## Draws from a tree -/

/-- What a visit relies on: the parent and the children are there, and what is picked from is not
    empty. -/
structure Tree.Visitable (t : Tree) (extra : UInt32) (id : NodeId) (n : Node) : Prop where
  parent : ∃ above, t.parent id = .ok above
  children : ∀ c ∈ n.children, ∃ m, t.node c = .ok m
  choice : n.kind.needsChildren → n.children ≠ #[]
  chars : ∀ cls, n.kind = .characterClass cls →
    cls.first.literal? = some cls.lo ∧ cls.last.literal? = some cls.hi ∧ cls.lo ≤ cls.hi
  counts : ∀ r, n.kind = .repetition r →
    r.min.toNat ≤ r.largest extra ∧ r.largest extra < UInt32.size ∧
      (r.max = none → r.largest extra = (saturatingSum r.min extra).toNat)

theorem Tree.Built.visitable {t : Tree} (built : t.Built) (extra : UInt32) {id : NodeId} {n : Node}
    (found : t.get? id = some n) : t.Visitable extra id n where
  parent := by
    simp only [Tree.parent, node_eq_ok.mpr found, ok_then]
    cases up : n.parent with
    | none => exact ⟨none, rfl⟩
    | some p =>
        obtain ⟨above, there, -⟩ := built.linked.parent_child found up
        simp only [node_eq_ok.mpr there]
        exact ⟨some above, rfl⟩
  children c member := by
    obtain ⟨m, there, -⟩ := built.linked.child_parent found member
    exact ⟨m, node_eq_ok.mpr there⟩
  choice := built.children_ne found
  chars cls _ := cls.bounds
  counts r _ := ⟨r.min_le_largest extra, r.largest_lt extra, r.largest_of_unbounded extra⟩

namespace Generator

/-- Over an `Obtained` tree `drawFrom` never fails: each node that it looks up is there and can be visited
    (`Visitable`), and it goes no deeper than `Tree.size`. Only the source can be `exhausted`, and any draws
    can be followed by more that lead to a text. -/
theorem drawFrom_never_fails {t : Tree} (obtained : t.Obtained) (extra : UInt32) :
    (∀ {id : NodeId} {n : Node}, t.get? id = some n → t.Visitable extra id n) ∧
    (∃ tops, t.subtrees = .ok tops ∧ Subtree.heightAll tops ≤ t.size) ∧
    (∀ {σ : Type} [DrawSource σ] (s : σ),
      (∃ text s', (⟨t, extra⟩ : Generator).drawFrom s = .ok (text, s')) ∨
        (⟨t, extra⟩ : Generator).drawFrom s = .error .exhausted) ∧
    ∀ draws : List UInt32, ∃ more text rest,
      (⟨t, extra⟩ : Generator).drawFrom (draws ++ more) = .ok (text, rest) := by
  have built := obtained.built
  obtain ⟨tops, found, -, sit⟩ := built.exists_subtrees
  have unfailing : Unfailing fun _ _ s => (⟨t, extra⟩ : Generator).drawFrom s := by
    simp only [drawFrom, found]
    exact Subtree.unfailing_runAll _ extra false tops ""
  have deep := Subtree.heightAll_le built.linked tops sit t.size.zero_le fun s _ => s.id.zero_le
  refine ⟨built.visitable extra, ⟨tops, found, by omega⟩, fun s => ?_, unfailing.finish⟩
  cases drawn : (⟨t, extra⟩ : Generator).drawFrom s with
  | ok result => exact .inl ⟨result.1, result.2, rfl⟩
  | error e => exact .inr (congrArg _ (unfailing.fault drawn))

/-- The tree of `(a|[b-d]){2,}`. -/
def treeOfRepeatedGroup : Tree :=
  ⟨#[⟨.opening, none, #[1]⟩, ⟨.repetition (.atLeast 2), some 0, #[2]⟩, ⟨.group, some 1, #[3]⟩,
    ⟨.alternative, some 2, #[4, 5]⟩, ⟨.token (.char 'a'), some 3, #[]⟩, ⟨.choice, some 3, #[6]⟩,
    ⟨.characterClass ⟨.char 'b', .char 'd', rfl, rfl, by decide⟩, some 5, #[]⟩,
    ⟨.closing, none, #[]⟩], #[0, 7]⟩

theorem drawFrom_never_fails_letters : parse "(a|[b-d])\x7b2,\x7d" = .ok treeOfRepeatedGroup ∧
    (∃ tops, treeOfRepeatedGroup.subtrees = .ok tops ∧ Subtree.heightAll tops ≤ 8) ∧
    ∀ draws : List UInt32, ∃ more text rest,
      (⟨treeOfRepeatedGroup, 4294967295⟩ : Generator).drawFrom (draws ++ more) = .ok (text, rest) := by
  have parsed : parse "(a|[b-d])\x7b2,\x7d" = .ok treeOfRepeatedGroup := by decide +kernel
  obtain ⟨-, deep, -, finish⟩ := drawFrom_never_fails (.parsed parsed) 4294967295
  exact ⟨parsed, deep, finish⟩

end Generator

end PatternSampler
