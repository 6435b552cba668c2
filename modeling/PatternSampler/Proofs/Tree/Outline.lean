import Mathlib
import PatternSampler.Proofs.Token.Layout
import PatternSampler.Proofs.Tree.Plain

/-! # Reading an outline back

An outline quotes nothing: the line of a token may hold a line feed, a blank or a closing parenthesis. All
the same it can be read from its start, for it is always known how much belongs to the next line. No line
is the beginning of another one, and the depths of the lines tell which of them belong below which.
-/

namespace PatternSampler

/-! ## Pieces of a line -/

theorem Token.spelling_append_inj {t t' : Token} (written : t.Written) (written' : t'.Written)
    {xs ys : List Char} (same : t.spelling ++ xs = t'.spelling ++ ys) : t = t' ∧ xs = ys := by
  rcases written.cases with ⟨c, plain, rfl⟩ | ⟨c, -, rfl⟩ <;>
    rcases written'.cases with ⟨d, plain', rfl⟩ | ⟨d, -, rfl⟩
  · simp only [spelling_ofChar, List.singleton_append, List.cons.injEq] at same
    exact ⟨congrArg ofChar same.1, same.2⟩
  · rw [spelling_ofChar] at same
    exact absurd (List.cons.inj same).1 plain
  · rw [spelling_ofChar] at same
    exact absurd (List.cons.inj same).1.symm plain'
  · simpa [spelling] using same

/-- The digits of a bound. A bound that is missing has none. -/
def boundDigits (bound : Option UInt32) : List Char := ((bound.map (toString ·.toNat)).getD "").toList

theorem isDigit_of_mem_boundDigits {bound : Option UInt32} :
    ∀ c ∈ boundDigits bound, c.isDigit := by
  intro c member
  cases bound with
  | none => simp [boundDigits] at member
  | some n =>
      exact isDigit_of_mem_toString c member

theorem boundDigits_inj {bound bound' : Option UInt32}
    (same : boundDigits bound = boundDigits bound') : bound = bound' := by
  have texts := String.toList_inj.mp same
  cases bound <;> cases bound' <;> simp only [Option.map_some, Option.map_none, Option.getD_some,
    Option.getD_none] at texts
  · rfl
  · exact absurd texts.symm Nat.repr_ne_empty
  · exact absurd texts Nat.repr_ne_empty
  · exact congrArg some (UInt32.toNat.inj (Nat.repr_inj.mp texts))

namespace NodeKind

/-- The tokens that the text of a node is made of. -/
def tokens : NodeKind → List Token
  | characterClass cls => [cls.first, cls.last]
  | token t => [t]
  | _ => []

/-- What the text of a node begins with, which says of what sort it is. -/
def label : NodeKind → String
  | opening => "begin"
  | closing => "end"
  | alternative => "alternative"
  | group => "block(sub_pattern=true)"
  | choice => "block(sub_pattern=false)"
  | characterClass _ => "character-class("
  | repetition _ => "repetition("
  | token _ => "token("

def details : NodeKind → List Char
  | characterClass cls => cls.first.spelling ++ '-' :: (cls.last.spelling ++ [')'])
  | repetition r => boundDigits (some r.min) ++ ',' :: (boundDigits r.max ++ [')'])
  | token t => t.spelling ++ [')']
  | _ => []

def labels : List String :=
  ["begin", "end", "alternative", "block(sub_pattern=true)", "block(sub_pattern=false)",
    "character-class(", "repetition(", "token("]

theorem label_mem (k : NodeKind) : k.label ∈ labels := by
  cases k <;> simp only [label, labels, List.mem_cons, true_or, or_true]

theorem text_token (t : Token) : (token t).text = "token(" ++ t.text ++ ")" := rfl

theorem text_repetition (r : Repetition) : (repetition r).text = "repetition" ++ r.text := rfl

theorem toList_text (k : NodeKind) : k.text.toList = k.label.toList ++ k.details := by
  cases k with
  | characterClass cls =>
      simp only [text_characterClass, String.toList_append, Token.toList_text, List.append_assoc]
      rfl
  | repetition r =>
      have opening : "repetition".toList ++ "(".toList = "repetition(".toList := rfl
      simp only [text_repetition, Repetition.text, String.toList_append, List.append_assoc]
      rw [← List.append_assoc, opening]
      rfl
  | token t =>
      simp only [text_token, String.toList_append, Token.toList_text, List.append_assoc]
      rfl
  | opening | closing | alternative | group | choice => exact (List.append_nil _).symm

theorem label_append_inj {k k' : NodeKind} {xs ys : List Char}
    (same : k.label.toList ++ xs = k'.label.toList ++ ys) : k.label = k'.label ∧ xs = ys := by
  have apart : ∀ a ∈ labels, ∀ b ∈ labels, a.toList <+: b.toList → a = b := by decide
  have labels_eq : k.label = k'.label := by
    rcases List.prefix_or_prefix_of_prefix ⟨xs, rfl⟩ ⟨ys, same.symm⟩ with first | first
    · exact apart _ k.label_mem _ k'.label_mem first
    · exact (apart _ k'.label_mem _ k.label_mem first).symm
  rw [labels_eq] at same
  exact ⟨labels_eq, List.append_cancel_left same⟩

/-- A label and `NodeKind.details` tell the kind of a node, whatever follows: boundaries of a class are
    single characters, and the digits of a bound end at a comma or at the parenthesis. -/
theorem details_append_inj {k k' : NodeKind} (written : ∀ t ∈ k.tokens, t.Written)
    (written' : ∀ t ∈ k'.tokens, t.Written) (labels_eq : k.label = k'.label) {xs ys : List Char}
    (same : k.details ++ xs = k'.details ++ ys) : k = k' ∧ xs = ys := by
  cases k <;> cases k' <;> simp only [label, String.reduceEq] at labels_eq
  case opening.opening | closing.closing | alternative.alternative | group.group | choice.choice =>
    exact ⟨rfl, same⟩
  case characterClass.characterClass cls cls' =>
    simp only [tokens, List.forall_mem_cons] at written written'
    simp only [details, List.append_assoc, List.cons_append] at same
    obtain ⟨first, dash⟩ := Token.spelling_append_inj written.1 written'.1 same
    obtain ⟨last, closing⟩ :=
      Token.spelling_append_inj written.2.1 written'.2.1 (List.cons.inj dash).2
    obtain ⟨_, _, _, _, _⟩ := cls
    obtain ⟨_, _, _, _, _⟩ := cls'
    cases first
    cases last
    exact ⟨rfl, (List.cons.inj closing).2⟩
  case repetition.repetition r r' =>
    simp only [details, List.append_assoc, List.cons_append] at same
    obtain ⟨min, -, comma⟩ := run_append_inj isDigit_of_mem_boundDigits isDigit_of_mem_boundDigits
      (by decide) (by decide) same
    obtain ⟨max, -, closing⟩ := run_append_inj isDigit_of_mem_boundDigits isDigit_of_mem_boundDigits
      (by decide) (by decide) comma
    obtain ⟨_, _, _⟩ := r
    obtain ⟨_, _, _⟩ := r'
    cases boundDigits_inj min
    cases boundDigits_inj max
    exact ⟨rfl, closing⟩
  case token.token t t' =>
    simp only [details, List.append_assoc] at same
    obtain ⟨rfl, closing⟩ := Token.spelling_append_inj (written t List.mem_cons_self)
      (written' t' List.mem_cons_self) same
    exact ⟨rfl, (List.cons.inj closing).2⟩

theorem text_append_inj {k k' : NodeKind} (written : ∀ t ∈ k.tokens, t.Written)
    (written' : ∀ t ∈ k'.tokens, t.Written) {xs ys : List Char}
    (same : k.text.toList ++ xs = k'.text.toList ++ ys) : k = k' ∧ xs = ys := by
  rw [toList_text, toList_text, List.append_assoc, List.append_assoc] at same
  obtain ⟨labels_eq, same⟩ := label_append_inj same
  exact details_append_inj written written' labels_eq same

theorem exists_toList_text (k : NodeKind) : ∃ c cs, c ≠ ' ' ∧ k.text.toList = c :: cs := by
  have starts : ∀ a ∈ labels, a.toList.head?.any (· != ' ') := by decide
  obtain ⟨c, member, no_blank⟩ := (Option.any_eq_true _ _).mp (starts _ k.label_mem)
  obtain ⟨cs, first⟩ := List.head?_eq_some_iff.mp member
  exact ⟨c, cs ++ k.details, by simpa using no_blank, by rw [toList_text, first]; rfl⟩

end NodeKind

/-! ## Lines -/

structure OutlineLine where
  depth : Nat
  kind : NodeKind

namespace OutlineLine

def text (l : OutlineLine) : String :=
  String.ofList (List.replicate (2 * l.depth) ' ') ++ l.kind.text ++ "\n"

theorem toList_text (l : OutlineLine) :
    l.text.toList = List.replicate (2 * l.depth) ' ' ++ (l.kind.text.toList ++ ['\n']) := by
  simp only [text, String.toList_append, String.toList_ofList, List.append_assoc]
  rfl

theorem text_append_inj {l l' : OutlineLine} (written : ∀ t ∈ l.kind.tokens, t.Written)
    (written' : ∀ t ∈ l'.kind.tokens, t.Written) {xs ys : List Char}
    (same : l.text.toList ++ xs = l'.text.toList ++ ys) : l = l' ∧ xs = ys := by
  obtain ⟨depth, kind⟩ := l
  obtain ⟨depth', kind'⟩ := l'
  obtain ⟨c, cs, no_blank, starts⟩ := kind.exists_toList_text
  obtain ⟨d, ds, no_blank', starts'⟩ := kind'.exists_toList_text
  simp only [toList_text, List.append_assoc] at same
  have blanks := same
  rw [starts, starts'] at blanks
  obtain ⟨indents, -, -⟩ := run_append_inj (p := (· = ' ')) (fun _ => List.eq_of_mem_replicate)
    (fun _ => List.eq_of_mem_replicate) no_blank no_blank' blanks
  rw [indents] at same
  obtain ⟨rfl, rest⟩ := NodeKind.text_append_inj written written' (List.append_cancel_left same)
  have depths : 2 * depth = 2 * depth' := by simpa using congrArg List.length indents
  cases Nat.eq_of_mul_eq_mul_left two_pos depths
  exact ⟨rfl, (List.cons.inj rest).2⟩

theorem join_text_inj {ls ls' : List OutlineLine} (written : ∀ l ∈ ls, ∀ t ∈ l.kind.tokens, t.Written)
    (written' : ∀ l ∈ ls', ∀ t ∈ l.kind.tokens, t.Written)
    (same : String.join (ls.map text) = String.join (ls'.map text)) : ls = ls' := by
  have nonempty (l : OutlineLine) (more : String) : l.text ++ more ≠ "" := by
    intro empty
    have chars := congrArg String.toList empty
    simp [toList_text] at chars
  induction ls generalizing ls' with
  | nil =>
      cases ls' with
      | nil => rfl
      | cons l' ls' =>
          rw [List.map_cons, String.join_cons] at same
          exact absurd same.symm (nonempty l' _)
  | cons l ls ih =>
      cases ls' with
      | nil =>
          rw [List.map_cons, String.join_cons] at same
          exact absurd same (nonempty l _)
      | cons l' ls' =>
          obtain ⟨first, others⟩ := List.forall_mem_cons.mp written
          obtain ⟨first', others'⟩ := List.forall_mem_cons.mp written'
          have chars := congrArg String.toList same
          simp only [List.map_cons, String.join_cons, String.toList_append] at chars
          obtain ⟨rfl, rest⟩ := text_append_inj first first' chars
          rw [ih others others' (String.toList_inj.mp rest)]

end OutlineLine

/-! ## Forests -/

namespace Sprout

mutual

/-- The lines of the outline of a piece whose topmost node is at some depth. -/
def lines (depth : Nat) : Sprout → List OutlineLine
  | .node kind children => ⟨depth, kind⟩ :: linesAll (depth + 1) children

def linesAll (depth : Nat) : List Sprout → List OutlineLine
  | [] => []
  | s :: ss => s.lines depth ++ linesAll depth ss

end

mutual

theorem outline_subtree (s : Sprout) (id : NodeId) (depth : Nat) :
    (s.subtree id).outline depth = String.join ((s.lines depth).map OutlineLine.text) := by
  cases s with
  | node kind children =>
      rw [subtree, Subtree.outline, outlineAll_subtreeAll, lines, List.map_cons, String.join_cons]
      rfl

theorem outlineAll_subtreeAll (ss : List Sprout) (id : NodeId) (depth : Nat) :
    Subtree.outlineAll depth (subtreeAll id ss) =
      String.join ((linesAll depth ss).map OutlineLine.text) := by
  cases ss with
  | nil => rfl
  | cons s ss =>
      rw [subtreeAll, Subtree.outlineAll, outline_subtree, outlineAll_subtreeAll, linesAll,
        List.map_append, String.join_append]

end

theorem depth_head_linesAll {ss : List Sprout} {depth : Nat} {ls : List OutlineLine}
    (above : ∀ l ∈ ls.head?, l.depth < depth) :
    ∀ l ∈ (linesAll depth ss ++ ls).head?, l.depth < depth + 1 := by
  intro l first
  cases ss with
  | nil => exact (above l first).trans depth.lt_succ_self
  | cons s ss =>
      obtain ⟨kind, children⟩ := s
      cases first
      exact depth.lt_succ_self

/-- `linesAll` tells the pieces, where a line that is less deep or none at all follows. -/
theorem linesAll_append_inj (ss ss' : List Sprout) {depth : Nat} {ls ls' : List OutlineLine}
    (above : ∀ l ∈ ls.head?, l.depth < depth) (above' : ∀ l ∈ ls'.head?, l.depth < depth)
    (same : linesAll depth ss ++ ls = linesAll depth ss' ++ ls') : ss = ss' ∧ ls = ls' := by
  match ss, ss' with
  | [], [] => exact ⟨rfl, same⟩
  | [], .node kind children :: ss' =>
      have first : ls.head? = some ⟨depth, kind⟩ := by
        rw [← List.nil_append ls, ← linesAll, same]
        rfl
      exact absurd (above _ first) (lt_irrefl _)
  | .node kind children :: ss, [] =>
      have first : ls'.head? = some ⟨depth, kind⟩ := by
        rw [← List.nil_append ls', ← linesAll, ← same]
        rfl
      exact absurd (above' _ first) (lt_irrefl _)
  | .node kind children :: ss, .node kind' children' :: ss' =>
      simp only [linesAll, lines, List.cons_append, List.append_assoc, List.cons.injEq,
        OutlineLine.mk.injEq, true_and] at same
      obtain ⟨rfl, below⟩ := same
      -- The lines of the children come first, and what follows them is not below the node.
      obtain ⟨rfl, beside⟩ := linesAll_append_inj children children' (depth_head_linesAll above)
        (depth_head_linesAll above') below
      obtain ⟨rfl, after⟩ := linesAll_append_inj ss ss' above above' beside
      exact ⟨rfl, after⟩

theorem linesAll_inj {ss ss' : List Sprout} {depth : Nat}
    (same : linesAll depth ss = linesAll depth ss') : ss = ss' := by
  have same' : linesAll depth ss ++ [] = linesAll depth ss' ++ [] := by rw [same]
  have above : ∀ l ∈ ([] : List OutlineLine).head?, l.depth < depth := by simp
  exact (linesAll_append_inj ss ss' above above same').1

/-! ## Tokens of a piece -/

mutual

/-- The tokens in the nodes of a piece. -/
def tokens : Sprout → List Token
  | .node kind children => kind.tokens ++ tokensAll children

def tokensAll : List Sprout → List Token
  | [] => []
  | s :: ss => s.tokens ++ tokensAll ss

end

mutual

theorem mem_tokens_of_line (s : Sprout) {depth : Nat} {l : OutlineLine} (line : l ∈ s.lines depth)
    {t : Token} (inside : t ∈ l.kind.tokens) : t ∈ s.tokens := by
  cases s with
  | node kind children =>
      rw [tokens]
      rcases List.mem_cons.mp line with rfl | below
      · exact List.mem_append_left _ inside
      · exact List.mem_append_right _ (mem_tokensAll_of_line children below inside)

theorem mem_tokensAll_of_line (ss : List Sprout) {depth : Nat} {l : OutlineLine}
    (line : l ∈ linesAll depth ss) {t : Token} (inside : t ∈ l.kind.tokens) : t ∈ tokensAll ss := by
  cases ss with
  | nil => cases line
  | cons s ss =>
      rw [tokensAll]
      rcases List.mem_append.mp line with first | others
      · exact List.mem_append_left _ (mem_tokens_of_line s first inside)
      · exact List.mem_append_right _ (mem_tokensAll_of_line ss others inside)

end

end Sprout

namespace Tree

variable {ss ss' : List Sprout}

theorem outline_framed (wf : Sprout.AllWellFormed ss) : (framed ss).outline =
    .ok (String.join ((Sprout.linesAll 0 (frame ss)).map OutlineLine.text)) := by
  rw [outline, subtrees_framed wf, ← Sprout.outlineAll_subtreeAll (frame ss) 0 0]
  rfl

theorem tokensAll_frame : Sprout.tokensAll (frame ss) = Sprout.tokensAll ss := by
  simp [frame, Sprout.tokensAll, Sprout.tokens, NodeKind.tokens]

/-- `Tree.outline` tells what was put into a frame. -/
theorem eq_of_outline_framed (wf : Sprout.AllWellFormed ss) (wf' : Sprout.AllWellFormed ss')
    (written : ∀ t ∈ Sprout.tokensAll ss, t.Written) (written' : ∀ t ∈ Sprout.tokensAll ss', t.Written)
    (same : (framed ss).outline = (framed ss').outline) : ss = ss' := by
  rw [outline_framed wf, outline_framed wf', Except.ok.injEq] at same
  rw [← tokensAll_frame] at written written'
  have frames := Sprout.linesAll_inj <| OutlineLine.join_text_inj
    (fun _ line t inside => written t (Sprout.mem_tokensAll_of_line _ line inside))
    (fun _ line t inside => written' t (Sprout.mem_tokensAll_of_line _ line inside)) same
  simpa [frame] using frames

end Tree

end PatternSampler
