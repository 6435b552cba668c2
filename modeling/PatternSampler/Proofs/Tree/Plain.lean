import Mathlib
import PatternSampler.Proofs.Tree.Preorder

/-! # Classes between plain characters

The boundaries of a class are kept as the tokens that they were written with. A metacharacter is a
boundary like any other character, so a tree can be had with plain characters for them. This changes
neither the links of the tree nor its outline.
-/

namespace PatternSampler

/-- The class with its boundaries as plain characters. -/
def CharacterClass.plain (cls : CharacterClass) : CharacterClass :=
  ⟨.char cls.lo, .char cls.hi, rfl, rfl, cls.ordered⟩

def NodeKind.plain : NodeKind → NodeKind
  | .characterClass cls => .characterClass cls.plain
  | kind => kind

def Node.plain (n : Node) : Node := { n with kind := n.kind.plain }

def Tree.plain (t : Tree) : Tree := ⟨t.nodes.map Node.plain, t.roots⟩

theorem Token.text_of_literal {t : Token} {c : Char} (literal : t.literal? = some c) :
    (Token.char c).text = t.text := by
  have same : t.spelling = [c] := by
    unfold spelling
    split
    · cases literal
    · rw [literal]
      rfl
  rw [text, text, same]
  rfl

namespace NodeKind

theorem text_characterClass (cls : CharacterClass) : (characterClass cls).text =
    "character-class(" ++ cls.first.text ++ "-" ++ cls.last.text ++ ")" :=
  rfl

theorem text_plain (kind : NodeKind) : kind.plain.text = kind.text := by
  cases kind with
  | characterClass cls =>
      have first : (Token.char cls.lo).text = cls.first.text :=
        Token.text_of_literal (Option.some_get cls.first_literal).symm
      have last : (Token.char cls.hi).text = cls.last.text :=
        Token.text_of_literal (Option.some_get cls.last_literal).symm
      rw [plain, text_characterClass, text_characterClass, ← first, ← last, CharacterClass.plain]
  | _ => rfl

theorem isLeaf_plain (kind : NodeKind) : kind.plain.isLeaf = kind.isLeaf := by
  cases kind <;> rfl

theorem needsChildren_plain (kind : NodeKind) : kind.plain.needsChildren = kind.needsChildren := by
  cases kind <;> rfl

end NodeKind

namespace Sprout

mutual

def plain : Sprout → Sprout
  | .node kind children => .node kind.plain (plainAll children)

def plainAll : List Sprout → List Sprout
  | [] => []
  | s :: ss => s.plain :: plainAll ss

end

mutual

theorem size_plain (s : Sprout) : s.plain.size = s.size := by
  cases s with
  | node kind children => rw [plain, size, size, sizeAll_plain]

theorem sizeAll_plain (ss : List Sprout) : sizeAll (plainAll ss) = sizeAll ss := by
  cases ss with
  | nil => rfl
  | cons s ss => rw [plainAll, sizeAll, sizeAll, size_plain, sizeAll_plain]

end

variable {ss : List Sprout}

theorem ids_plain (id : NodeId) : ids id (plainAll ss) = ids id ss := by
  induction ss generalizing id with
  | nil => rfl
  | cons s ss ih =>
      obtain ⟨kind, children⟩ := s
      have others := ih (id + (node kind children).size)
      rw [plainAll, ids, subtreeAll, List.map_cons, size_plain, ids, subtreeAll, List.map_cons]
      exact congrArg (id :: ·) others

mutual

theorem nodes_plain (s : Sprout) (id : NodeId) (parent : Option NodeId) :
    s.plain.nodes id parent = (s.nodes id parent).map Node.plain := by
  cases s with
  | node kind children =>
      rw [plain, nodes, nodes, List.map_cons, nodesAll_plain, ids_plain]
      rfl

theorem nodesAll_plain (ss : List Sprout) (id : NodeId) (parent : Option NodeId) :
    nodesAll id parent (plainAll ss) = (nodesAll id parent ss).map Node.plain := by
  cases ss with
  | nil => rfl
  | cons s ss => rw [plainAll, nodesAll, nodesAll, List.map_append, nodes_plain, size_plain, nodesAll_plain]

end

mutual

theorem WellFormed.plain {s : Sprout} (wf : s.WellFormed) : s.plain.WellFormed := by
  cases s with
  | node kind children =>
      obtain ⟨leaf, needs, below⟩ := wf
      refine ⟨fun h => ?_, fun h => ?_, below.plain⟩
      · rw [NodeKind.isLeaf_plain] at h
        rw [leaf h]
        rfl
      · rw [NodeKind.needsChildren_plain] at h
        obtain ⟨s, ss, rfl⟩ := List.exists_cons_of_ne_nil (needs h)
        exact List.cons_ne_nil _ _

theorem AllWellFormed.plain {ss : List Sprout} (wf : AllWellFormed ss) :
    AllWellFormed (plainAll ss) := by
  cases ss with
  | nil => trivial
  | cons s ss => exact ⟨wf.1.plain, wf.2.plain⟩

end

mutual

/-- `Sprout.plain` keeps the outline, whatever the ids are. -/
theorem outline_plain (s : Sprout) (id id' depth : Nat) :
    (s.plain.subtree id).outline depth = (s.subtree id').outline depth := by
  cases s with
  | node kind children =>
      rw [plain, subtree, subtree, Subtree.outline, Subtree.outline, NodeKind.text_plain,
        outlineAll_plain children (id + 1) (id' + 1)]

theorem outlineAll_plain (ss : List Sprout) (id id' depth : Nat) :
    Subtree.outlineAll depth (subtreeAll id (plainAll ss)) =
      Subtree.outlineAll depth (subtreeAll id' ss) := by
  cases ss with
  | nil => rfl
  | cons s ss =>
      rw [plainAll, subtreeAll, subtreeAll, Subtree.outlineAll, Subtree.outlineAll,
        outline_plain s id id', outlineAll_plain ss (id + s.plain.size) (id' + s.size)]

end

end Sprout

namespace Tree

variable {ss : List Sprout}

theorem framed_plain : framed (Sprout.plainAll ss) = (framed ss).plain := by
  have nodes : (framed (Sprout.plainAll ss)).nodes = (framed ss).nodes.map Node.plain := by
    rw [← Array.toList_inj, Array.toList_map, framed, framed, Builder.nodes_framed,
      Builder.nodes_framed, Sprout.nodesAll_plain, Sprout.ids_plain, List.map_append, List.map_append]
    rfl
  have roots : (framed (Sprout.plainAll ss)).roots = (framed ss).roots := by
    rw [framed, framed, Builder.roots_framed, Builder.roots_framed, Sprout.sizeAll_plain]
  rw [plain, ← nodes, ← roots]

theorem outline_framed_plain (wf : Sprout.AllWellFormed ss) :
    ∃ text, (framed ss).outline = .ok text ∧ (framed ss).plain.outline = .ok text := by
  refine ⟨_, by rw [outline, subtrees_framed wf]; rfl, ?_⟩
  rw [← framed_plain, outline, subtrees_framed wf.plain]
  exact congrArg Except.ok (Sprout.outlineAll_plain (frame ss) 0 0 0)

end Tree

end PatternSampler
