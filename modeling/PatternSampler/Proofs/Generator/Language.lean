import Mathlib
import PatternSampler.Generator
import PatternSampler.Proofs.Random.Pick
import PatternSampler.Proofs.Tree.Arena

/-! # The language of a tree

The texts that a tree stands for are said here without any draws: which texts a node yields, given what
its children yield. A run over a finished tree draws exactly these texts. That it draws no others
follows the run; that it draws each of them needs the draws, which are put together along the tree.
-/

namespace PatternSampler

namespace Tree

/-- Whether a node is a choice. It is asked about the parent that a node records, if there is one. -/
def IsChoice (t : Tree) (parent : Option NodeId) : Prop :=
  ∃ p m, parent = some p ∧ t.get? p = some m ∧ m.kind = .choice

mutual

inductive Yields (t : Tree) (extra : UInt32) : NodeId → List Char → Prop
  /-- The frame of a pattern and groups: the texts of the children, one after the other. -/
  | sequence {id : NodeId} {n : Node} {w : List Char} (found : t.get? id = some n)
      (kind : n.kind = .opening ∨ n.kind = .closing ∨ n.kind = .group)
      (children : YieldsAll t extra n.children.toList w) : Yields t extra id w
  /-- Alternatives and choices: a text of one of the children. -/
  | oneOf {id child : NodeId} {n : Node} {w : List Char} (found : t.get? id = some n)
      (kind : n.kind = .alternative ∨ n.kind = .choice) (member : child ∈ n.children)
      (chosen : Yields t extra child w) : Yields t extra id w
  /-- A class: any one of its characters. -/
  | characterClass {id : NodeId} {n : Node} {cls : CharacterClass} {c : Char}
      (found : t.get? id = some n) (kind : n.kind = .characterClass cls)
      (inside : cls.contains c) : Yields t extra id [c]
  /-- A repetition: as many copies as its bounds admit, each with a text of its own. -/
  | repetition {id : NodeId} {n : Node} {r : Repetition} {copies : List (List Char)}
      (found : t.get? id = some n) (kind : n.kind = .repetition r)
      (least : r.min.toNat ≤ copies.length) (most : copies.length ≤ r.largest extra)
      (each : ∀ copy ∈ copies, YieldsAll t extra n.children.toList copy) :
      Yields t extra id copies.flatten
  /-- An escape: nothing. -/
  | escape {id : NodeId} {n : Node} {c : Char} (found : t.get? id = some n)
      (kind : n.kind = .token (.escape c)) : Yields t extra id []
  /-- A period that is not directly below a choice: any character between two bounds. -/
  | wildcard {id : NodeId} {n : Node} {c : Char} (found : t.get? id = some n)
      (kind : n.kind = .token .period) (free : ¬t.IsChoice n.parent) (ge : 'Z' ≤ c) (le : c ≤ 'a') :
      Yields t extra id [c]
  /-- Any other token: its own text. -/
  | literal {id : NodeId} {n : Node} {token : Token} (found : t.get? id = some n)
      (kind : n.kind = .token token) (plain : token.isEscape = false)
      (fixed : token = .period → t.IsChoice n.parent) : Yields t extra id token.spelling

inductive YieldsAll (t : Tree) (extra : UInt32) : List NodeId → List Char → Prop
  | nil : YieldsAll t extra [] []
  | cons {id : NodeId} {ids : List NodeId} {v w : List Char} (first : Yields t extra id v)
      (others : YieldsAll t extra ids w) : YieldsAll t extra (id :: ids) (v ++ w)

end

/-- The texts that a tree stands for: those of its top-level nodes, one after the other. -/
def language (t : Tree) (extra : UInt32) : Language Char :=
  {w | t.YieldsAll extra t.roots.toList w}

def TokenYields (t : Tree) (parent : Option NodeId) (token : Token) (w : List Char) : Prop :=
  token.isEscape = true ∧ w = [] ∨
    token = .period ∧ ¬t.IsChoice parent ∧ (∃ c, 'Z' ≤ c ∧ c ≤ 'a' ∧ w = [c]) ∨
    token.isEscape = false ∧ (token = .period → t.IsChoice parent) ∧ w = token.spelling

theorem yields_iff {t : Tree} {extra : UInt32} {id : NodeId} {n : Node} {w : List Char}
    (found : t.get? id = some n) :
    t.Yields extra id w ↔
      match n.kind with
      | .opening | .closing | .group => t.YieldsAll extra n.children.toList w
      | .alternative | .choice => ∃ child ∈ n.children, t.Yields extra child w
      | .characterClass cls => ∃ c, cls.contains c ∧ w = [c]
      | .repetition r => ∃ copies : List (List Char), r.min.toNat ≤ copies.length ∧
          copies.length ≤ r.largest extra ∧
          (∀ copy ∈ copies, t.YieldsAll extra n.children.toList copy) ∧ w = copies.flatten
      | .token token => t.TokenYields n.parent token w := by
  constructor
  · intro y
    cases y with
    | sequence found' kind children =>
        cases found.symm.trans found'
        rcases kind with kind | kind | kind <;> rw [kind] <;> exact children
    | oneOf found' kind member chosen =>
        cases found.symm.trans found'
        rcases kind with kind | kind <;> rw [kind] <;> exact ⟨_, member, chosen⟩
    | characterClass found' kind inside =>
        cases found.symm.trans found'
        rw [kind]
        exact ⟨_, inside, rfl⟩
    | repetition found' kind least most each =>
        cases found.symm.trans found'
        rw [kind]
        exact ⟨_, least, most, each, rfl⟩
    | escape found' kind =>
        cases found.symm.trans found'
        rw [kind]
        exact .inl ⟨rfl, rfl⟩
    | wildcard found' kind free ge le =>
        cases found.symm.trans found'
        rw [kind]
        exact .inr (.inl ⟨rfl, free, _, ge, le, rfl⟩)
    | literal found' kind plain fixed =>
        cases found.symm.trans found'
        rw [kind]
        exact .inr (.inr ⟨plain, fixed, rfl⟩)
  · intro y
    cases kind : n.kind with
    | opening => exact .sequence found (.inl kind) (by simpa only [kind] using y)
    | closing => exact .sequence found (.inr (.inl kind)) (by simpa only [kind] using y)
    | group => exact .sequence found (.inr (.inr kind)) (by simpa only [kind] using y)
    | alternative =>
        rw [kind] at y
        obtain ⟨child, member, chosen⟩ := y
        exact .oneOf found (.inl kind) member chosen
    | choice =>
        rw [kind] at y
        obtain ⟨child, member, chosen⟩ := y
        exact .oneOf found (.inr kind) member chosen
    | characterClass cls =>
        rw [kind] at y
        obtain ⟨c, inside, rfl⟩ := y
        exact .characterClass found kind inside
    | repetition r =>
        rw [kind] at y
        obtain ⟨copies, least, most, each, rfl⟩ := y
        exact .repetition found kind least most each
    | token token =>
        rw [kind] at y
        rcases y with ⟨escape, rfl⟩ | ⟨rfl, free, c, ge, le, rfl⟩ | ⟨plain, fixed, rfl⟩
        · cases token <;> simp only [Token.isEscape, Bool.false_eq_true] at escape
          exact .escape found kind
        · exact .wildcard found kind free ge le
        · exact .literal found kind plain fixed

end Tree

/-! ## What a run adds -/

def Visit.textOf (visits : List Visit) : List Char := visits.flatMap fun v => v.text.toList

@[simp] theorem Visit.textOf_nil : textOf [] = [] := rfl

@[simp] theorem Visit.textOf_cons (v : Visit) (visits : List Visit) :
    textOf (v :: visits) = v.text.toList ++ textOf visits := rfl

@[simp] theorem Visit.textOf_append (visits later : List Visit) :
    textOf (visits ++ later) = textOf visits ++ textOf later := List.flatMap_append

theorem Visit.toList_foldl_append (visits : List Visit) (text : String) :
    (visits.foldl (fun text visit => text ++ visit.text) text).toList =
      text.toList ++ textOf visits := by
  induction visits generalizing text with
  | nil => simp
  | cons v visits ih => simp [ih]

namespace Subtree

section Sound

variable {σ β : Type} [DrawSource σ] {note : β → Visit → β} {extra : UInt32} {t : Tree}

omit [DrawSource σ] in
theorem iterate_sound {P : List Char → Prop} {step : β × σ → Except Fault (β × σ)}
    (each : ∀ {b b' : β} {s s' : σ}, step (b, s) = .ok (b', s') →
      ∃ visits, b' = visits.foldl note b ∧ P (Visit.textOf visits))
    {n : Nat} {b b' : β} {s s' : σ} (h : iterate step n (b, s) = .ok (b', s')) :
    ∃ (visits : List Visit) (copies : List (List Char)), b' = visits.foldl note b ∧
      Visit.textOf visits = copies.flatten ∧ copies.length = n ∧ ∀ copy ∈ copies, P copy := by
  induction n generalizing b s with
  | zero =>
      simp only [iterate, Except.ok.injEq, Prod.mk.injEq] at h
      exact ⟨[], [], h.1.symm, rfl, rfl, by simp⟩
  | succ n ih =>
      cases stepped : step (b, s) with
      | error e => simp [iterate, stepped] at h
      | ok after =>
          obtain ⟨b₁, s₁⟩ := after
          simp only [iterate, stepped] at h
          obtain ⟨visits, rfl, holds⟩ := each stepped
          obtain ⟨later, copies, rfl, text, length, all⟩ := ih h
          refine ⟨visits ++ later, Visit.textOf visits :: copies, List.foldl_append.symm, ?_, ?_, ?_⟩
          · rw [Visit.textOf_append, List.flatten_cons, text]
          · rw [List.length_cons, length]
          · exact List.forall_mem_cons.mpr ⟨holds, all⟩

theorem runToken_sound {parent : Option NodeId} {inChoice : Bool}
    (place : inChoice = true ↔ t.IsChoice parent) {id : NodeId} {token : Token} {b b' : β} {s s' : σ}
    (h : runToken note inChoice id token b s = .ok (b', s')) :
    ∃ visits : List Visit, b' = visits.foldl note b ∧
      t.TokenYields parent token (Visit.textOf visits) := by
  simp only [runToken] at h
  split at h
  · rename_i escape
    cases h
    exact ⟨[⟨id, none, ""⟩], rfl, .inl ⟨escape, rfl⟩⟩
  · rename_i plain
    split at h
    · rename_i wild
      split at h
      · simp at h
      · rename_i c _ drawn
        cases h
        obtain ⟨ge, le⟩ := Pick.char_bounds drawn
        have period : token = .period := by
          cases token <;> simp_all [Token.isWildcard]
        have free : ¬t.IsChoice parent := by
          rw [← place]
          simp_all
        exact ⟨[⟨id, some (.char c), c.toString⟩], rfl,
          .inr (.inl ⟨period, free, c, ge, le, by simp⟩)⟩
    · rename_i fixed
      cases h
      refine ⟨[⟨id, none, token.text⟩], rfl, .inr (.inr ⟨by simpa using plain, ?_, ?_⟩)⟩
      · rintro rfl
        rw [← place]
        simpa [Token.isWildcard] using fixed
      · simp [Token.text]

theorem pickChild_sound {id : NodeId} {count index : Nat} (some_children : count ≠ 0) {b b' : β}
    {s s' : σ} (h : pickChild note id count b s = .ok (index, b', s')) :
    index < count ∧ ∃ v : Visit, b' = note b v ∧ v.text = "" := by
  rw [pickChild, if_neg some_children] at h
  split at h
  · simp at h
  · rename_i drawn
    cases h
    exact ⟨Pick.place_lt drawn, _, rfl, rfl⟩

mutual

/-- Soundness of `Yields`: the text of the visits that a `run` adds below a node is one that the node
    yields. -/
theorem run_sound (built : t.Built) {parent : Option NodeId} {inChoice : Bool}
    (place : inChoice = true ↔ t.IsChoice parent) {st : Subtree} (sits : st.SitsIn t parent)
    {b b' : β} {s s' : σ} (h : run note extra inChoice st b s = .ok (b', s')) :
    ∃ visits : List Visit, b' = visits.foldl note b ∧
      t.Yields extra st.id (Visit.textOf visits) := by
  cases st with
  | node id kind children =>
      obtain ⟨found, below⟩ := sits
      have place_below : (kind = .choice) ↔ t.IsChoice (some id) := by
        simp [Tree.IsChoice, found]
      have nonempty (needs : kind.needsChildren) : children.length ≠ 0 := by
        have := built.children_ne found needs
        simpa using this
      cases kind with
      | opening | closing | group =>
          obtain ⟨visits, rfl, text⟩ := runAll_sound built (by simpa using place_below) below h
          exact ⟨⟨id, none, ""⟩ :: visits, rfl, (Tree.yields_iff found).mpr (by simpa using text)⟩
      | alternative | choice =>
          simp only [run] at h
          split at h
          · simp at h
          · rename_i picked
            obtain ⟨inside, v, rfl, silent⟩ := pickChild_sound (nonempty rfl) picked
            obtain ⟨visits, rfl, child, member, text⟩ :=
              runNth_sound built (by simpa using place_below) below inside h
            exact ⟨v :: visits, rfl, (Tree.yields_iff found).mpr
              ⟨child, by simpa using member, by simpa [silent] using text⟩⟩
      | characterClass cls =>
          simp only [run] at h
          split at h
          · simp at h
          · rename_i c _ drawn
            cases h
            have inside : cls.contains c := by
              simpa [CharacterClass.contains] using Pick.char_bounds drawn
            exact ⟨[⟨id, some (.char c), c.toString⟩], rfl,
              (Tree.yields_iff found).mpr ⟨c, inside, by simp⟩⟩
      | repetition r =>
          simp only [run] at h
          split at h
          · simp at h
          · rename_i n _ drawn
            obtain ⟨least, most⟩ := Pick.number_bounds drawn
            have each : ∀ {b b' : β} {s s' : σ},
                runAll note extra false children b s = .ok (b', s') →
                ∃ visits, b' = visits.foldl note b ∧
                  t.YieldsAll extra (children.map Subtree.id) (Visit.textOf visits) :=
              fun stepped => runAll_sound built (by simpa using place_below) below stepped
            obtain ⟨visits, copies, rfl, text, rfl, all⟩ := iterate_sound each h
            exact ⟨⟨id, some (.count copies.length), ""⟩ :: visits, rfl,
              (Tree.yields_iff found).mpr ⟨copies, least, most, by simpa using all, by simpa using text⟩⟩
      | token token =>
          obtain ⟨visits, rfl, text⟩ := runToken_sound place h
          exact ⟨visits, rfl, (Tree.yields_iff found).mpr text⟩

theorem runAll_sound (built : t.Built) {parent : Option NodeId} {inChoice : Bool}
    (place : inChoice = true ↔ t.IsChoice parent) {ss : List Subtree} (sit : AllSitIn t parent ss)
    {b b' : β} {s s' : σ} (h : runAll note extra inChoice ss b s = .ok (b', s')) :
    ∃ visits : List Visit, b' = visits.foldl note b ∧
      t.YieldsAll extra (ss.map Subtree.id) (Visit.textOf visits) := by
  cases ss with
  | nil =>
      cases h
      exact ⟨[], rfl, .nil⟩
  | cons st ss =>
      simp only [runAll] at h
      split at h
      · simp at h
      · rename_i first
        obtain ⟨visits, rfl, text⟩ := run_sound built place sit.1 first
        obtain ⟨later, rfl, texts⟩ := runAll_sound built place sit.2 h
        refine ⟨visits ++ later, List.foldl_append.symm, ?_⟩
        rw [Visit.textOf_append]
        exact .cons text texts

theorem runNth_sound (built : t.Built) {parent : Option NodeId} {inChoice : Bool}
    (place : inChoice = true ↔ t.IsChoice parent) {ss : List Subtree} (sit : AllSitIn t parent ss)
    {index : Nat} (inside : index < ss.length) {b b' : β} {s s' : σ}
    (h : runNth note extra inChoice ss index b s = .ok (b', s')) :
    ∃ visits : List Visit, b' = visits.foldl note b ∧
      ∃ child ∈ ss.map Subtree.id, t.Yields extra child (Visit.textOf visits) := by
  cases ss with
  | nil => simp at inside
  | cons st ss =>
      cases index with
      | zero =>
          obtain ⟨visits, rfl, text⟩ := run_sound built place sit.1 h
          exact ⟨visits, rfl, st.id, by simp, text⟩
      | succ index =>
          obtain ⟨visits, rfl, child, member, text⟩ :=
            runNth_sound built place sit.2 (Nat.lt_of_succ_lt_succ inside) h
          exact ⟨visits, rfl, child, .tail _ member, text⟩

end

end Sound

section Complete

variable {extra : UInt32} {t : Tree}

/-- Some draws lead `f` to add the text `w`, whoever takes the notes and whatever draws are left. -/
def CanAdd (f : (β : Type) → (β → Visit → β) → β → List UInt32 → Except Fault (β × List UInt32))
    (w : List Char) : Prop :=
  ∃ (draws : List UInt32) (visits : List Visit), Visit.textOf visits = w ∧
    ∀ {β : Type} (note : β → Visit → β) (b : β) (rest : List UInt32),
      f β note b (draws ++ rest) = .ok (visits.foldl note b, rest)

theorem canAdd_iterate
    {step : (β : Type) → (β → Visit → β) → β → List UInt32 → Except Fault (β × List UInt32)}
    {copies : List (List Char)} (each : ∀ copy ∈ copies, CanAdd step copy) :
    CanAdd (fun β note b s => iterate (fun (b, s) => step β note b s) copies.length (b, s))
      copies.flatten := by
  induction copies with
  | nil => exact ⟨[], [], rfl, fun _ _ _ => rfl⟩
  | cons copy copies ih =>
      obtain ⟨draws, visits, text, first⟩ := each copy List.mem_cons_self
      obtain ⟨draws', visits', texts, others⟩ := ih fun c member => each c (.tail _ member)
      refine ⟨draws ++ draws', visits ++ visits', ?_, fun note b rest => ?_⟩
      · rw [Visit.textOf_append, text, texts, List.flatten_cons]
      · simp only [List.length_cons, iterate, List.append_assoc, first, others, List.foldl_append]

theorem canAdd_token {parent : Option NodeId} {inChoice : Bool}
    (place : inChoice = true ↔ t.IsChoice parent) {id : NodeId} {token : Token} {w : List Char}
    (y : t.TokenYields parent token w) :
    CanAdd (fun _ note b s => runToken note inChoice id token b s) w := by
  rcases y with ⟨escape, rfl⟩ | ⟨rfl, free, c, ge, le, rfl⟩ | ⟨plain, fixed, rfl⟩
  · refine ⟨[], [⟨id, none, ""⟩], rfl, fun note b rest => ?_⟩
    simp only [List.nil_append, runToken, escape, if_true, List.foldl_cons, List.foldl_nil]
  · have outside : inChoice = false := by
      rw [← place] at free
      simpa using free
    obtain ⟨draws, drawn⟩ := Pick.exists_char ge le
    refine ⟨draws, [⟨id, some (.char c), c.toString⟩], by simp, fun note b rest => ?_⟩
    simp [runToken, Token.isEscape, Token.isWildcard, outside, wildcardBounds, drawn]
  · have literal : (token.isWildcard && !inChoice) = false := by
      cases token <;> simp_all [Token.isWildcard]
    refine ⟨[], [⟨id, none, token.text⟩], by simp [Token.text], fun note b rest => ?_⟩
    simp only [List.nil_append, runToken, plain, literal, Bool.false_eq_true, if_false,
      List.foldl_cons, List.foldl_nil]

theorem exists_pickChild (id : NodeId) {count index : Nat} (inside : index < count) :
    ∃ draws : List UInt32, ∀ {β : Type} (note : β → Visit → β) (b : β) (rest : List UInt32),
      pickChild note id count b (draws ++ rest) =
        .ok (index, note b ⟨id, some (.child index), ""⟩, rest) := by
  obtain ⟨draws, drawn⟩ := Pick.exists_place inside
  refine ⟨draws, fun note b rest => ?_⟩
  have some_children : count ≠ 0 := by omega
  simp only [pickChild, if_neg some_children, drawn]

mutual

/-- Completeness of `Yields`: for every text that a node yields there are draws with which a `run` adds it.
    -/
theorem canAdd_run {parent : Option NodeId} {inChoice : Bool}
    (place : inChoice = true ↔ t.IsChoice parent) {st : Subtree} (sits : st.SitsIn t parent)
    {w : List Char} (y : t.Yields extra st.id w) :
    CanAdd (fun _ note b s => run note extra inChoice st b s) w := by
  cases st with
  | node id kind children =>
      obtain ⟨found, below⟩ := sits
      have place_below : (kind = .choice) ↔ t.IsChoice (some id) := by
        simp [Tree.IsChoice, found]
      have y := (Tree.yields_iff found).mp y
      cases kind with
      | opening | closing | group =>
          have outside : false = true ↔ t.IsChoice (some id) := by simpa using place_below
          obtain ⟨draws, visits, text, all⟩ := canAdd_runAll outside below (by simpa using y)
          exact ⟨draws, ⟨id, none, ""⟩ :: visits, text, fun note b rest => all note _ rest⟩
      | alternative =>
          have outside : false = true ↔ t.IsChoice (some id) := by simpa using place_below
          obtain ⟨child, member, chosen⟩ := y
          obtain ⟨index, inside, draws', visits, text, one⟩ :=
            canAdd_runNth outside below (by simpa using member) chosen
          obtain ⟨draws, picked⟩ := exists_pickChild id inside
          refine ⟨draws ++ draws', ⟨id, some (.child index), ""⟩ :: visits, text,
            fun note b rest => ?_⟩
          simp only [run, List.append_assoc, picked, one, List.foldl_cons]
      | choice =>
          have within : true = true ↔ t.IsChoice (some id) := by simpa using place_below
          obtain ⟨child, member, chosen⟩ := y
          obtain ⟨index, inside, draws', visits, text, one⟩ :=
            canAdd_runNth within below (by simpa using member) chosen
          obtain ⟨draws, picked⟩ := exists_pickChild id inside
          refine ⟨draws ++ draws', ⟨id, some (.child index), ""⟩ :: visits, text,
            fun note b rest => ?_⟩
          simp only [run, List.append_assoc, picked, one, List.foldl_cons]
      | characterClass cls =>
          obtain ⟨c, inside, rfl⟩ := y
          have bounds : cls.lo ≤ c ∧ c ≤ cls.hi := by
            simpa [CharacterClass.contains] using inside
          obtain ⟨draws, drawn⟩ := Pick.exists_char bounds.1 bounds.2
          refine ⟨draws, [⟨id, some (.char c), c.toString⟩], by simp, fun note b rest => ?_⟩
          simp only [run, drawn, List.foldl_cons, List.foldl_nil]
      | repetition r =>
          obtain ⟨copies, least, most, each, rfl⟩ := y
          have largest_lt : r.largest extra < 2 ^ 32 := by
            simp only [Repetition.largest]
            split
            · exact UInt32.toNat_lt _
            · exact (Nat.min_le_right _ _).trans_lt (by decide)
          obtain ⟨draws, drawn⟩ := Pick.exists_number (by omega) least most
          have outside : false = true ↔ t.IsChoice (some id) := by simpa using place_below
          have copies_add : ∀ copy ∈ copies,
              CanAdd (fun _ note b s => runAll note extra false children b s) copy :=
            fun copy member => canAdd_runAll outside below (by simpa using each copy member)
          obtain ⟨draws', visits, text, all⟩ := canAdd_iterate copies_add
          refine ⟨draws ++ draws', ⟨id, some (.count copies.length), ""⟩ :: visits, text,
            fun note b rest => ?_⟩
          simp only [run, List.append_assoc, drawn, all, List.foldl_cons]
      | token token => exact canAdd_token place y

theorem canAdd_runAll {parent : Option NodeId} {inChoice : Bool}
    (place : inChoice = true ↔ t.IsChoice parent) {ss : List Subtree} (sit : AllSitIn t parent ss)
    {w : List Char} (y : t.YieldsAll extra (ss.map Subtree.id) w) :
    CanAdd (fun _ note b s => runAll note extra inChoice ss b s) w := by
  cases ss with
  | nil =>
      cases y
      exact ⟨[], [], rfl, fun _ _ _ => rfl⟩
  | cons st ss =>
      cases y with
      | cons first others =>
          obtain ⟨draws, visits, text, one⟩ := canAdd_run place sit.1 first
          obtain ⟨draws', visits', texts, all⟩ := canAdd_runAll place sit.2 others
          refine ⟨draws ++ draws', visits ++ visits', ?_, fun note b rest => ?_⟩
          · rw [Visit.textOf_append, text, texts]
          · simp only [runAll, List.append_assoc, one, all, List.foldl_append]

theorem canAdd_runNth {parent : Option NodeId} {inChoice : Bool}
    (place : inChoice = true ↔ t.IsChoice parent) {ss : List Subtree} (sit : AllSitIn t parent ss)
    {child : NodeId} (member : child ∈ ss.map Subtree.id) {w : List Char}
    (y : t.Yields extra child w) :
    ∃ index < ss.length,
      CanAdd (fun _ note b s => runNth note extra inChoice ss index b s) w := by
  cases ss with
  | nil => simp at member
  | cons st ss =>
      cases member with
      | head => exact ⟨0, by simp, canAdd_run place sit.1 y⟩
      | tail _ member =>
          obtain ⟨index, inside, one⟩ := canAdd_runNth place sit.2 member y
          exact ⟨index + 1, by simpa using inside, one⟩

end

end Complete

end Subtree

namespace Subtree

variable {σ : Type} [DrawSource σ] {extra : UInt32} {t : Tree} {ss : List Subtree}

theorem draw_sound (built : t.Built) (sit : AllSitIn t none ss) {text : String} {s s' : σ}
    (drawn : draw extra ss s = .ok (text, s')) :
    t.YieldsAll extra (ss.map Subtree.id) text.toList := by
  have top : false = true ↔ t.IsChoice none := by simp [Tree.IsChoice]
  obtain ⟨visits, rfl, yields⟩ := runAll_sound built top sit drawn
  rw [Visit.toList_foldl_append]
  exact yields

theorem drawMany_sound (built : t.Built) (sit : AllSitIn t none ss) {n : Nat}
    {done texts : List String} {s s' : σ} (drawn : drawMany extra ss n done s = .ok (texts, s')) :
    ∀ text ∈ texts, text ∈ done ∨ t.YieldsAll extra (ss.map Subtree.id) text.toList := by
  induction n generalizing done s with
  | zero =>
      cases drawn
      exact fun _ => .inl
  | succ n ih =>
      simp only [drawMany] at drawn
      split at drawn
      · cases drawn
      · rename_i one
        intro text member
        rcases ih drawn text member with latest | yields
        · rcases List.mem_cons.mp latest with rfl | before
          · exact .inr (draw_sound built sit one)
          · exact .inl before
        · exact .inr yields

end Subtree

namespace Generator

section Sound

variable {σ : Type} [DrawSource σ] {g : Generator} {s s' : σ}

theorem drawFrom_sound (built : g.tree.Built) {text : String}
    (drawn : g.drawFrom s = .ok (text, s')) : text.toList ∈ g.tree.language g.extra := by
  obtain ⟨ss, found, roots, sit⟩ := built.exists_subtrees
  simp only [drawFrom, found] at drawn
  rw [Tree.language, ← roots]
  exact Subtree.draw_sound built sit drawn

theorem samplesFrom_sound (built : g.tree.Built) {count : Nat} {texts : List String}
    (drawn : g.samplesFrom count s = .ok (texts, s')) :
    ∀ text ∈ texts, text.toList ∈ g.tree.language g.extra := by
  obtain ⟨ss, found, roots, sit⟩ := built.exists_subtrees
  simp only [samplesFrom, found] at drawn
  cases all : Subtree.drawMany g.extra ss count [] s with
  | error e => simp [all] at drawn
  | ok result =>
      obtain ⟨done, s''⟩ := result
      simp only [all, Except.map_ok, Except.ok.injEq, Prod.mk.injEq] at drawn
      obtain ⟨rfl, -⟩ := drawn
      intro text member
      rw [Tree.language, ← roots]
      rcases Subtree.drawMany_sound built sit all text (List.mem_reverse.mp member) with none | yields
      · cases none
      · exact yields

end Sound

/-- For every tree that a builder finishes, the texts that `drawFrom` answers for some draws are those of
    `Tree.language`. -/
theorem exists_drawFrom_iff {calls : List Builder.Call} {t : Tree}
    (finished : (Builder.ofCalls calls).finish = .ok t) (extra : UInt32) (text : String) :
    (∃ draws rest : List UInt32, (⟨t, extra⟩ : Generator).drawFrom draws = .ok (text, rest)) ↔
      text.toList ∈ t.language extra := by
  have built : t.Built := ⟨calls, finished⟩
  constructor
  · rintro ⟨draws, rest, drawn⟩
    exact @drawFrom_sound _ _ ⟨t, extra⟩ _ _ built _ drawn
  · intro yields
    obtain ⟨ss, found, roots, sit⟩ := built.exists_subtrees
    have top : false = true ↔ t.IsChoice none := by simp [Tree.IsChoice]
    rw [Tree.language, ← roots] at yields
    obtain ⟨draws, visits, visited, run⟩ := Subtree.canAdd_runAll top sit yields
    have drawn := run (fun text visit => text ++ visit.text) "" []
    have all : visits.foldl (fun text visit => text ++ visit.text) "" = text := by
      apply String.toList_inj.mp
      rw [Visit.toList_foldl_append, visited]
      rfl
    refine ⟨draws ++ [], [], ?_⟩
    simp only [drawFrom, found, Subtree.draw]
    rw [← all]
    exact drawn

/-- How the tree of a set of one period is built. -/
def setOfPeriod : List Builder.Call :=
  [.root .opening, .push .choice (some 0), .push (.token .period) (some 1), .root .closing]

theorem exists_drawFrom_setOfPeriod :
    ∃ t : Tree, (Builder.ofCalls setOfPeriod).finish = .ok t ∧
      ∃ draws rest : List UInt32, (⟨t, 5⟩ : Generator).drawFrom draws = .ok (".", rest) := by
  let t : Tree := ⟨(Builder.ofCalls setOfPeriod).nodes, (Builder.ofCalls setOfPeriod).roots⟩
  have period : t.Yields 5 2 Token.period.spelling :=
    .literal rfl rfl rfl fun _ => ⟨1, _, rfl, rfl, rfl⟩
  have member : 2 ∈ #[2] := by simp
  have choice : t.Yields 5 1 Token.period.spelling := .oneOf rfl (.inr rfl) member period
  have opening : t.Yields 5 0 ['.'] := .sequence rfl (.inl rfl) (.cons choice .nil)
  have closing : t.Yields 5 3 [] := .sequence rfl (.inr (.inl rfl)) .nil
  have finished : (Builder.ofCalls setOfPeriod).finish = .ok t := rfl
  exact ⟨t, finished, (exists_drawFrom_iff finished 5 ".").mpr (.cons opening (.cons closing .nil))⟩

end Generator

end PatternSampler
