import Mathlib
import PatternSampler.Proofs.Lists
import PatternSampler.Token.Lexer

/-! # Tokens and the text that they cover

A text that is cut into tokens is laid out by them, one after the other and without gaps, and tokens that
a text can be cut into are found again in the text that they are written with. What a cut does not get
over is a backslash with nothing to escape.
-/

namespace PatternSampler

/-- The characters with a token of their own. -/
def metacharacters : List Char :=
  ['^', '$', '.', '|', '(', ')', '[', ']', '{', '}', '-', ',', '*', '+', '?']

/-- A scan from left to right takes characters one by one, but a backslash together with the character
    after it. -/
inductive Scanned : List Char → Prop
  | nil : Scanned []
  | single {c : Char} {cs : List Char} (plain : c ≠ '\\') (others : Scanned cs) : Scanned (c :: cs)
  | pair {c : Char} {cs : List Char} (others : Scanned cs) : Scanned ('\\' :: c :: cs)

/-- A scan of `cs` gets over `before` and comes to a backslash at the end or before a line feed. -/
structure Dangles (cs before : List Char) : Prop where
  scanned : Scanned before
  backslash : ∃ after, cs = before ++ '\\' :: after ∧ ∀ c ∈ after.head?, c = '\n'

namespace Span

/-- The spans follow one another without gaps from `start` to `stop`, and none is empty. -/
def Tile (start stop : Nat) : List Span → Prop
  | [] => start = stop
  | span :: spans => span.start = start ∧ span.start < span.stop ∧ Tile span.stop stop spans

end Span

namespace Token

/-- Whether a text can be cut into tokens of this sort. -/
def Written : Token → Prop
  | char c => c ∉ metacharacters ∧ c ≠ '\\'
  | escape c => c ≠ '\n'
  | _ => True

/-- The characters that tokens are written with. -/
def spellings (ts : List Token) : List Char := ts.flatMap spelling

/-- The tokens one after the other from byte `offset`. -/
def layout (offset : Nat) : List Token → List Lexeme
  | [] => []
  | t :: ts =>
    ⟨t, offset, offset + t.text.utf8ByteSize⟩ :: layout (offset + t.text.utf8ByteSize) ts

variable {offset : Nat} {t : Token} {ts : List Token}

@[simp] theorem spellings_cons : spellings (t :: ts) = t.spelling ++ spellings ts := rfl

theorem toList_join_text : (String.join (ts.map text)).toList = spellings ts := by
  simp [String.toList_join, spellings, List.flatMap_map, text]

theorem ofList_spellings : String.ofList (spellings ts) = String.join (ts.map text) :=
  String.ofList_eq.mpr toList_join_text.symm

theorem tokens_layout : (layout offset ts).map (·.token) = ts := by
  induction ts generalizing offset with
  | nil => rfl
  | cons t ts ih => rw [layout, List.map_cons, ih]

/-! ## Single tokens -/

theorem toList_text (t : Token) : t.text.toList = t.spelling := String.toList_ofList

theorem spelling_ofChar (c : Char) : (ofChar c).spelling = [c] := by
  unfold ofChar
  split <;> rfl

theorem written_ofChar {c : Char} (plain : c ≠ '\\') : (ofChar c).Written := by
  unfold ofChar
  split
  case h_16 => exact ⟨by simp_all [metacharacters], plain⟩
  all_goals trivial

theorem ofChar_of_not_mem {c : Char} (plain : c ∉ metacharacters) : ofChar c = char c := by
  unfold ofChar
  split
  case h_16 => rfl
  all_goals exact absurd plain (by decide)

theorem Written.cases (written : t.Written) :
    (∃ c, c ≠ '\\' ∧ t = ofChar c) ∨ ∃ c, c ≠ '\n' ∧ t = escape c := by
  cases t with
  | char c => exact .inl ⟨c, written.2, (ofChar_of_not_mem written.1).symm⟩
  | escape c => exact .inr ⟨c, written, rfl⟩
  | caret => exact .inl ⟨'^', by decide, rfl⟩
  | dollar => exact .inl ⟨'$', by decide, rfl⟩
  | period => exact .inl ⟨'.', by decide, rfl⟩
  | pipe => exact .inl ⟨'|', by decide, rfl⟩
  | openParen => exact .inl ⟨'(', by decide, rfl⟩
  | closeParen => exact .inl ⟨')', by decide, rfl⟩
  | openBracket => exact .inl ⟨'[', by decide, rfl⟩
  | closeBracket => exact .inl ⟨']', by decide, rfl⟩
  | openBrace => exact .inl ⟨'{', by decide, rfl⟩
  | closeBrace => exact .inl ⟨'}', by decide, rfl⟩
  | dash => exact .inl ⟨'-', by decide, rfl⟩
  | comma => exact .inl ⟨',', by decide, rfl⟩
  | star => exact .inl ⟨'*', by decide, rfl⟩
  | plus => exact .inl ⟨'+', by decide, rfl⟩
  | question => exact .inl ⟨'?', by decide, rfl⟩

theorem scan_cons {c : Char} (plain : c ≠ '\\') (cs : List Char) :
    scan offset (c :: cs) =
      (⟨ofChar c, offset, offset + c.utf8Size⟩ :: ·) <$> scan (offset + c.utf8Size) cs := by
  rw [scan]
  · rintro rfl rfl
    exact plain rfl
  · rintro d rest rfl -
    exact plain rfl

theorem scan_escape {c : Char} (free : c ≠ '\n') (cs : List Char) :
    scan offset ('\\' :: c :: cs) =
      (⟨escape c, offset, offset + 1 + c.utf8Size⟩ :: ·) <$> scan (offset + 1 + c.utf8Size) cs := by
  rw [scan, if_neg free]

theorem scan_dangling {cs : List Char} (stop : ∀ c ∈ cs.head?, c = '\n') :
    scan offset ('\\' :: cs) = .error (.danglingBackslash offset) := by
  cases cs with
  | nil => rw [scan]
  | cons c cs => rw [scan, if_pos (stop c rfl)]

theorem utf8ByteSize_text (t : Token) : t.text.utf8ByteSize = String.utf8Len t.spelling :=
  String.utf8ByteSize_ofList t.spelling

theorem utf8Len_spellings_cons : String.utf8Len (spellings (t :: ts)) =
    t.text.utf8ByteSize + String.utf8Len (spellings ts) := by
  rw [spellings_cons, String.utf8Len_append, utf8ByteSize_text]

theorem layout_append (us : List Token) : layout offset (ts ++ us) =
    layout offset ts ++ layout (offset + String.utf8Len (spellings ts)) us := by
  induction ts generalizing offset with
  | nil => rfl
  | cons t ts ih =>
      rw [List.cons_append, layout, ih, utf8Len_spellings_cons, ← Nat.add_assoc]
      rfl

theorem scan_spelling (written : t.Written) (cs : List Char) :
    scan offset (t.spelling ++ cs) =
      (⟨t, offset, offset + t.text.utf8ByteSize⟩ :: ·) <$> scan (offset + t.text.utf8ByteSize) cs := by
  rw [utf8ByteSize_text]
  rcases written.cases with ⟨c, plain, rfl⟩ | ⟨c, free, rfl⟩
  · simpa [spelling_ofChar] using scan_cons plain cs
  · have size : '\\'.utf8Size = 1 := rfl
    have total : c.utf8Size + '\\'.utf8Size = 1 + c.utf8Size := by omega
    simpa [spelling, total, ← Nat.add_assoc] using scan_escape free cs

/-! ## Texts -/

/-- `scan` finds `Written` tokens again where they are spelled, and goes on behind them. -/
theorem scan_spellings (written : ∀ t ∈ ts, t.Written) (cs : List Char) :
    scan offset (spellings ts ++ cs) =
      (layout offset ts ++ ·) <$> scan (offset + String.utf8Len (spellings ts)) cs := by
  induction ts generalizing offset with
  | nil => exact (id_map (scan offset cs)).symm
  | cons t ts ih =>
      obtain ⟨first, others⟩ := List.forall_mem_cons.mp written
      rw [utf8Len_spellings_cons, ← Nat.add_assoc, spellings_cons, List.append_assoc, scan_spelling first,
        ih others, ← comp_map]
      rfl

/-- Every text is spelled with `Written` tokens up to its end or up to a backslash with nothing to escape.
    -/
theorem exists_spellings (cs : List Char) :
    ∃ ts rest, (∀ t ∈ ts, t.Written) ∧ cs = spellings ts ++ rest ∧
      (rest = [] ∨ ∃ after, rest = '\\' :: after ∧ ∀ c ∈ after.head?, c = '\n') := by
  match cs with
  | [] => exact ⟨[], [], nofun, rfl, .inl rfl⟩
  | c :: cs =>
      by_cases plain : c = '\\'
      · subst plain
        match cs with
        | [] => exact ⟨[], ['\\'], nofun, rfl, .inr ⟨[], rfl, nofun⟩⟩
        | c :: cs =>
            by_cases free : c = '\n'
            · exact ⟨[], '\\' :: c :: cs, nofun, rfl, .inr ⟨c :: cs, rfl, by simpa using free⟩⟩
            · obtain ⟨ts, rest, written, rfl, stop⟩ := exists_spellings cs
              exact ⟨escape c :: ts, rest, List.forall_mem_cons.mpr ⟨free, written⟩, rfl, stop⟩
      · obtain ⟨ts, rest, written, rfl, stop⟩ := exists_spellings cs
        refine ⟨ofChar c :: ts, rest, List.forall_mem_cons.mpr ⟨written_ofChar plain, written⟩, ?_, stop⟩
        rw [spellings_cons, spelling_ofChar]
        rfl

theorem scanned_spellings (written : ∀ t ∈ ts, t.Written) : Scanned (spellings ts) := by
  induction ts with
  | nil => exact .nil
  | cons t ts ih =>
      obtain ⟨first, others⟩ := List.forall_mem_cons.mp written
      rcases first.cases with ⟨c, plain, rfl⟩ | ⟨c, -, rfl⟩
      · rw [spellings_cons, spelling_ofChar]
        exact .single plain (ih others)
      · exact .pair (ih others)

theorem length_spellings_le (written : ∀ t ∈ ts, t.Written) {cs before : List Char}
    (dangles : Dangles (spellings ts ++ cs) before) : (spellings ts).length ≤ before.length := by
  induction ts generalizing before with
  | nil => exact Nat.zero_le _
  | cons t ts ih =>
      obtain ⟨first, others⟩ := List.forall_mem_cons.mp written
      obtain ⟨scanned, after, eq, stop⟩ := dangles
      rcases first.cases with ⟨c, plain, rfl⟩ | ⟨c, free, rfl⟩
      · rw [spellings_cons, spelling_ofChar] at eq ⊢
        cases scanned with
        | nil => exact absurd (List.cons.inj eq).1 plain
        | pair => exact absurd (List.cons.inj eq).1 plain
        | single _ later =>
            exact Nat.succ_le_succ (ih others ⟨later, after, (List.cons.inj eq).2, stop⟩)
      · cases scanned with
        | nil =>
            have behind : after = c :: (spellings ts ++ cs) := (List.cons.inj eq).2.symm
            exact absurd (stop c (by rw [behind]; rfl)) free
        | single plain => exact absurd (List.cons.inj eq).1.symm plain
        | pair later =>
            have eq := (List.cons.inj (List.cons.inj eq).2).2
            exact Nat.succ_le_succ (Nat.succ_le_succ (ih others ⟨later, after, eq, stop⟩))

/-- `scan` succeeds exactly on what is spelled with `Written` tokens, and answers their `layout`. -/
theorem scan_eq_ok {cs : List Char} {ls : List Lexeme} :
    scan offset cs = .ok ls ↔ ∃ ts, (∀ t ∈ ts, t.Written) ∧ cs = spellings ts ∧ ls = layout offset ts := by
  constructor
  · intro scanned
    obtain ⟨ts, rest, written, rfl, rfl | ⟨after, rfl, stop⟩⟩ := exists_spellings cs
    · rw [scan_spellings written, scan] at scanned
      cases scanned
      exact ⟨ts, written, List.append_nil _, List.append_nil _⟩
    · rw [scan_spellings written, scan_dangling stop] at scanned
      cases scanned
  · rintro ⟨ts, written, rfl, rfl⟩
    have whole := @scan_spellings offset ts written []
    rw [scan, List.append_nil] at whole
    rw [whole]
    exact congrArg Except.ok (List.append_nil _)

theorem scan_eq_error {cs : List Char} {e : LexError} (refused : scan offset cs = .error e) :
    ∃ ts after, (∀ t ∈ ts, t.Written) ∧ cs = spellings ts ++ '\\' :: after ∧
      (∀ c ∈ after.head?, c = '\n') ∧ e = .danglingBackslash (offset + String.utf8Len (spellings ts)) := by
  obtain ⟨ts, rest, written, rfl, rfl | ⟨after, rfl, stop⟩⟩ := exists_spellings cs
  · rw [scan_spellings written, scan] at refused
    cases refused
  · rw [scan_spellings written, scan_dangling stop] at refused
    cases refused
    exact ⟨ts, after, written, rfl, stop, rfl⟩

/-! ## Spans -/

theorem utf8ByteSize_text_pos (written : t.Written) : 0 < t.text.utf8ByteSize := by
  rw [utf8ByteSize_text]
  rcases written.cases with ⟨c, -, rfl⟩ | ⟨c, -, rfl⟩
  · rw [spelling_ofChar]
    exact Nat.add_pos_right _ c.utf8Size_pos
  · exact Nat.add_pos_right _ (Char.utf8Size_pos _)

theorem tile_layout (written : ∀ t ∈ ts, t.Written) :
    Span.Tile offset (offset + String.utf8Len (spellings ts)) ((layout offset ts).map (·.span)) := by
  induction ts generalizing offset with
  | nil => rfl
  | cons t ts ih =>
      obtain ⟨first, others⟩ := List.forall_mem_cons.mp written
      refine ⟨rfl, Nat.lt_add_of_pos_right (utf8ByteSize_text_pos first), ?_⟩
      rw [utf8Len_spellings_cons, ← Nat.add_assoc]
      exact ih others

/-- The span that `layout` gives to a token cuts its text out. -/
theorem extract_layout (before : String) {l : Lexeme} (member : l ∈ layout before.utf8ByteSize ts) :
    (before ++ String.join (ts.map text)).toByteArray.extract l.span.start l.span.stop =
      l.token.text.toByteArray := by
  induction ts generalizing before with
  | nil => cases member
  | cons t ts ih =>
      rw [List.map_cons, String.join_cons]
      rcases List.mem_cons.mp member with rfl | later
      · simp only [String.toByteArray_append]
        have behind := @ByteArray.extract_append_size_add before.toByteArray
          (t.text.toByteArray ++ (String.join (ts.map text)).toByteArray) 0 t.text.utf8ByteSize
        exact behind.trans (ByteArray.extract_append_eq_left rfl)
      · rw [← String.append_assoc]
        rw [← String.utf8ByteSize_append] at later
        exact ih (before ++ t.text) later

end Token

open Token

theorem tokenize_eq_ok {pattern : String} {ls : List Lexeme} : tokenize pattern = .ok ls ↔
    ∃ ts, (∀ t ∈ ts, t.Written) ∧ pattern = String.join (ts.map text) ∧ ls = layout 0 ts := by
  rw [tokenize, scan_eq_ok]
  simp only [← toList_join_text, String.toList_inj]

/-- `tokenize` loses nothing: the spans `Tile` the pattern and each cuts out the text of its token, and
    `Written` tokens are found again. It fails exactly where a backslash `Dangles`, at the first one. -/
theorem tokenize_exact :
    (∀ pattern : String,
      ((∃ ls, tokenize pattern = .ok ls) ↔ ¬∃ before, Dangles pattern.toList before) ∧
      (∀ ls, tokenize pattern = .ok ls →
        String.join (ls.map (·.token.text)) = pattern ∧
          Span.Tile 0 pattern.utf8ByteSize (ls.map (·.span)) ∧
          ∀ l ∈ ls, pattern.toByteArray.extract l.span.start l.span.stop = l.token.text.toByteArray) ∧
      ∀ e, tokenize pattern = .error e →
        e.fragment = "\\" ∧
          ∃ before, Dangles pattern.toList before ∧ e.offset = (String.ofList before).utf8ByteSize ∧
            (∀ other, Dangles pattern.toList other → before.length ≤ other.length) ∧
            ∃ ls, tokenize (String.ofList before) = .ok ls) ∧
      ∀ ts : List Token, (∀ t ∈ ts, t.Written) →
        ∃ ls, tokenize (String.join (ts.map text)) = .ok ls ∧ ls.map (·.token) = ts := by
  refine ⟨fun pattern => ⟨⟨?_, ?_⟩, ?_, ?_⟩, fun ts written =>
    ⟨layout 0 ts, tokenize_eq_ok.mpr ⟨ts, written, rfl, rfl⟩, tokens_layout⟩⟩
  · rintro ⟨ls, scanned⟩ ⟨before, dangles⟩
    obtain ⟨ts, written, eq, -⟩ := scan_eq_ok.mp scanned
    rw [eq, ← List.append_nil (spellings ts)] at dangles
    have le := length_spellings_le written dangles
    obtain ⟨-, after, cut, -⟩ := dangles
    have length := congrArg List.length cut
    simp only [List.append_nil, List.length_append, List.length_cons] at length
    omega
  · intro none_dangles
    cases scanned : tokenize pattern with
    | ok ls => exact ⟨ls, rfl⟩
    | error e =>
        obtain ⟨ts, after, written, eq, stop, -⟩ := scan_eq_error scanned
        exact absurd ⟨spellings ts, scanned_spellings written, after, eq, stop⟩ none_dangles
  · intro ls scanned
    obtain ⟨ts, written, rfl, rfl⟩ := tokenize_eq_ok.mp scanned
    refine ⟨?_, ?_, fun l member => ?_⟩
    · have texts := List.map_map (g := text) (f := fun l : Lexeme => l.token) (l := layout 0 ts)
      rw [tokens_layout] at texts
      exact congrArg String.join texts.symm
    · have tiles := @tile_layout 0 ts written
      rwa [← toList_join_text, String.utf8Len_toList, Nat.zero_add] at tiles
    · have cut := extract_layout "" member
      rwa [String.empty_append] at cut
  · intro e refused
    obtain ⟨ts, after, written, eq, stop, rfl⟩ := scan_eq_error refused
    refine ⟨rfl, spellings ts, ⟨scanned_spellings written, after, eq, stop⟩, ?_, ?_, ?_⟩
    · rw [String.utf8ByteSize_ofList]
      exact Nat.zero_add _
    · intro other dangles
      rw [eq] at dangles
      exact length_spellings_le written dangles
    · rw [ofList_spellings]
      exact ⟨layout 0 ts, tokenize_eq_ok.mpr ⟨ts, written, rfl, rfl⟩⟩

end PatternSampler
