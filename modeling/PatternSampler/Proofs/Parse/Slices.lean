import Mathlib
import PatternSampler.Proofs.Parse.Spans

/-! # What problems point to

The span of a problem cuts a slice out of the pattern, and only the end of the pattern has an empty one.
What is around a construct has no part in the problem of the construct, so the slice is refused for the
same problem when it is a pattern of its own.
-/

namespace PatternSampler

open Grammar

/-- The bytes of the span are those of `slice`, which is a part of the text between two characters. -/
def Span.Cuts (span : Span) (text slice : String) : Prop :=
  ∃ before after, text = before ++ slice ++ after ∧
    span = ⟨before.utf8ByteSize, (before ++ slice).utf8ByteSize⟩

/-- The span back from where everything stands `n` bytes further on. -/
def Span.unshift (n : Nat) (span : Span) : Span := ⟨span.start - n, span.stop - n⟩

namespace Span

variable {span : Span} {text slice slice' : String}

theorem joins_unshift (n : Nat) : Joins (unshift n) := fun _ _ => rfl

theorem Cuts.bounds (cuts : span.Cuts text slice) :
    span.stop = span.start + slice.utf8ByteSize ∧ span.stop ≤ text.utf8ByteSize := by
  obtain ⟨before, after, rfl, rfl⟩ := cuts
  have whole : (before ++ slice ++ after).utf8ByteSize =
      (before ++ slice).utf8ByteSize + after.utf8ByteSize := String.utf8ByteSize_append
  exact ⟨String.utf8ByteSize_append, whole ▸ Nat.le_add_right _ _⟩

theorem Cuts.extract (cuts : span.Cuts text slice) :
    text.toByteArray.extract span.start span.stop = slice.toByteArray := by
  obtain ⟨before, after, rfl, rfl⟩ := cuts
  have behind := @ByteArray.extract_append_size_add before.toByteArray
    (slice.toByteArray ++ after.toByteArray) 0 slice.utf8ByteSize
  simp only [String.append_assoc, String.toByteArray_append, String.utf8ByteSize_append]
  exact behind.trans (ByteArray.extract_append_eq_left rfl)

theorem Cuts.unique (cuts : span.Cuts text slice) (cuts' : span.Cuts text slice') : slice = slice' :=
  String.toByteArray_inj.mp (cuts.extract.symm.trans cuts'.extract)

end Span

/-! ## Tokens in a row -/

namespace Token

variable {offset : Nat} {ts : List Token} {atEnd : Span}

theorem unshift_layout (n : Nat) :
    (layout (n + offset) ts).map (·.mapSpan (.unshift n)) = layout offset ts := by
  induction ts generalizing offset with
  | nil => rfl
  | cons t ts ih =>
      rw [layout, layout, List.map_cons, Nat.add_assoc, ih]
      simp [Lexeme.mapSpan, Span.unshift]

theorem exists_of_layout_infix {ls : List Lexeme} (within : ls <:+: layout offset ts) :
    ∃ before inner after, ts = before ++ inner ++ after ∧
      ls = layout (offset + String.utf8Len (spellings before)) inner := by
  obtain ⟨ls₁, ls₂, eq⟩ := within
  have split : ts = ls₁.map (·.token) ++ ls.map (·.token) ++ ls₂.map (·.token) := by
    rw [← List.map_append, ← List.map_append, eq, tokens_layout]
  refine ⟨_, _, _, split, ?_⟩
  have length {o : Nat} {us : List Token} : (layout o us).length = us.length := by
    rw [← List.length_map (·.token), tokens_layout]
  rw [split, layout_append, layout_append] at eq
  have same := List.append_inj_left eq (by simp [length])
  exact List.append_inj_right same (by simp [length])

theorem since_layout (nonempty : ts ≠ []) : Span.since atEnd (layout offset ts) [] =
    ⟨offset, offset + String.utf8Len (spellings ts)⟩ := by
  obtain ⟨t, ts, rfl⟩ := List.exists_cons_of_ne_nil nonempty
  rw [utf8Len_spellings_cons]
  rcases ts.eq_nil_or_concat with rfl | ⟨us, t', rfl⟩
  · exact Reader.since_one _ []
  · rw [layout, List.concat_eq_append, layout_append]
    refine (Span.since_closed _ _ _ []).trans ?_
    have both : spellings (us ++ [t']) = spellings us ++ t'.spelling := by simp [spellings]
    rw [both, String.utf8Len_append, ← utf8ByteSize_text, ← Nat.add_assoc, ← Nat.add_assoc]
    rfl

theorem utf8ByteSize_join_text : (String.join (ts.map text)).utf8ByteSize =
    String.utf8Len (spellings ts) := by
  rw [← ofList_spellings, String.utf8ByteSize_ofList]

theorem join_text_ne_empty (written : ∀ t ∈ ts, t.Written) (nonempty : ts ≠ []) :
    String.join (ts.map text) ≠ "" := by
  obtain ⟨t, ts, rfl⟩ := List.exists_cons_of_ne_nil nonempty
  intro empty
  have size := congrArg String.utf8ByteSize empty
  rw [utf8ByteSize_join_text, utf8Len_spellings_cons] at size
  have pos := utf8ByteSize_text_pos (written t List.mem_cons_self)
  rw [String.utf8ByteSize_empty] at size
  omega

end Token

open Token

theorem exists_cuts_of_infix {pattern : String} {ls us : List Lexeme} (atEnd : Span)
    (tokens : tokenize pattern = .ok ls) (within : us <:+: ls) (nonempty : us ≠ []) :
    ∃ offset ts, us = layout offset ts ∧ (∀ t ∈ ts, t.Written) ∧ String.join (ts.map text) ≠ "" ∧
      Span.since atEnd us [] = ⟨offset, offset + (String.join (ts.map text)).utf8ByteSize⟩ ∧
      (Span.since atEnd us []).Cuts pattern (String.join (ts.map text)) := by
  obtain ⟨ts, written, rfl, rfl⟩ := tokenize_eq_ok.mp tokens
  obtain ⟨before, inner, after, rfl, rfl⟩ := exists_of_layout_infix within
  have filled : inner ≠ [] := by
    rintro rfl
    exact nonempty rfl
  have written' : ∀ t ∈ inner, t.Written := fun t member => written t (by simp [member])
  have span := @since_layout (0 + String.utf8Len (spellings before)) inner atEnd filled
  have size := @utf8ByteSize_join_text inner
  rw [← size] at span
  refine ⟨_, inner, rfl, written', join_text_ne_empty written' filled, span,
    String.join (before.map text), String.join (after.map text), ?_, span.trans ?_⟩
  · simp only [List.map_append, String.join_append]
  · rw [String.utf8ByteSize_append, @utf8ByteSize_join_text before, Nat.zero_add]

/-! ## Constructs on their own -/

theorem Grammar.Whole.moved {f : Span → Span} {atEnd : Span} {ts : List Lexeme} {p : Pattern}
    (whole : Whole atEnd ts p) (atEnd' : Span) (joins : Span.Joins f) (nonempty : ts ≠ []) :
    Whole atEnd' (ts.map (·.mapSpan f)) (p.mapSpan f) := by
  have span := since_mapSpan atEnd atEnd' joins nonempty
  cases whole with
  | intro caret body dollar =>
      rw [Pattern.mapSpan, ← span, List.map_append, List.map_append]
      exact .intro caret.mapSpan (body.mapSpan atEnd' joins) dollar.mapSpan

theorem ParseError.mapSpan_congr {f g : Span → Span} {e : ParseError} (same : f e.span = g e.span) :
    e.mapSpan f = e.mapSpan g := by
  cases e with
  | lex e => rfl
  | grammar problem span => exact congrArg (grammar problem) same
  | invalid source span => exact congrArg (invalid source) same
  | unsupported construct span => exact congrArg (unsupported construct) same

/-- Tokens of a pattern with problems are refused for the first of them also as all of a text. -/
theorem parse_join_text {atEnd : Span} {offset : Nat} {ts : List Token} {p : Pattern} {e : ParseError}
    (written : ∀ t ∈ ts, t.Written) (nonempty : layout offset ts ≠ [])
    (whole : Whole atEnd (layout offset ts) p) (first : p.problems.head? = some e) :
    parse (String.join (ts.map text)) = .error (e.mapSpan (.unshift offset)) := by
  have tokens : tokenize (String.join (ts.map text)) = .ok (layout 0 ts) :=
    tokenize_eq_ok.mpr ⟨ts, written, rfl, rfl⟩
  have joins := Span.joins_unshift offset
  have alone := whole.moved (.emptyAt (String.join (ts.map text)).utf8ByteSize) joins nonempty
  have moved : (layout offset ts).map (·.mapSpan (.unshift offset)) = layout 0 ts :=
    @unshift_layout 0 ts offset
  rw [moved] at alone
  have refused := ((Pattern.meets_tree whole).error_iff e).mpr first
  simp only [parse, tokens, parseLexemes, Pattern.ofLexemes_eq_ok.mpr alone]
  rw [Pattern.tree_mapSpan joins whole, refused]
  rfl

/-! ## All problems -/

/-- A problem of the boundaries of a range. -/
def ValidationError.OfRange : ValidationError → Prop
  | emptyRange _ _ | nonLiteralBoundary _ => True
  | _ => False

theorem CharacterClass.ofRange_of_ofTokens {first last : Token} {source : ValidationError}
    (refused : ofTokens first last = .error source) : source.OfRange := by
  unfold ofTokens at refused
  split at refused
  · split at refused
    · split at refused
      · cases refused
      · cases refused
        trivial
    · cases refused
      trivial
  · cases refused
    trivial

namespace ParseError

variable {span : Span}

theorem OfConstruct.not_ofReading {problem : GrammarProblem}
    (ofConstruct : (grammar problem span).OfConstruct) : ¬problem.OfReading := by
  cases problem <;> first | exact ofConstruct.elim | exact not_false

theorem OfConstruct.not_ofRange {source : ValidationError}
    (ofConstruct : (invalid source span).OfConstruct) : ¬source.OfRange := by
  cases source <;> first | exact ofConstruct.elim | exact not_false

/-- What a problem of a pattern says about the slice that its span cuts out. -/
structure PointsTo (e : ParseError) (pattern slice : String) : Prop where
  cuts : e.span.Cuts pattern slice
  filled : slice = "" → e = .grammar .unexpectedEnd (.emptyAt pattern.utf8ByteSize)
  alone : e.OfConstruct → parse slice = .error (e.mapSpan fun _ => ⟨0, slice.utf8ByteSize⟩)
  boundaries : ∀ source span, e = .invalid source span → source.OfRange →
    ∃ ls first dash last, tokenize pattern = .ok ls ∧ [first, dash, last] <:+: ls ∧
      CharacterClass.ofTokens first.token last.token = .error source ∧
      slice = first.token.text ++ "-" ++ last.token.text

theorem pointsTo_of_tokenize {pattern : String} {e : LexError} (refused : tokenize pattern = .error e) :
    (lex e).PointsTo pattern "\\" := by
  obtain ⟨ts, after, -, eq, -, rfl⟩ := Token.scan_eq_error refused
  refine ⟨⟨String.ofList (spellings ts), String.ofList after, ?_, ?_⟩,
    fun empty => absurd empty (by decide), nofun, nofun⟩
  · rw [← String.toList_inj, eq]
    simp
  · rw [String.utf8ByteSize_append, String.utf8ByteSize_ofList, Nat.zero_add]
    rfl

theorem Stands.exists_pointsTo {pattern : String} {ls : List Lexeme} {e : ParseError}
    (tokens : tokenize pattern = .ok ls) (stands : e.Stands (.emptyAt pattern.utf8ByteSize) ls) :
    ∃ slice, e.PointsTo pattern slice := by
  cases stands with
  | ending =>
      refine ⟨"", ⟨pattern, "", ?_, ?_⟩, fun _ => rfl, nofun, nofun⟩
      · rw [String.append_empty, String.append_empty]
      · rw [String.append_empty]
        rfl
  | reading nonempty within ofReading =>
      obtain ⟨offset, ts, -, -, filled, -, cuts⟩ := exists_cuts_of_infix _ tokens within nonempty
      exact ⟨_, cuts, fun empty => absurd empty filled,
        fun ofConstruct => absurd ofReading ofConstruct.not_ofReading, nofun⟩
  | construct nonempty within whole first ofConstruct there =>
      obtain ⟨offset, ts, rfl, written, filled, span, cuts⟩ :=
        exists_cuts_of_infix _ tokens within nonempty
      rw [← there] at span cuts
      refine ⟨_, cuts, fun empty => absurd empty filled, fun _ => ?_, ?_⟩
      · rw [parse_join_text written nonempty whole first]
        refine congrArg Except.error (mapSpan_congr ?_)
        rw [span, Span.unshift, Nat.sub_self, Nat.add_sub_cancel_left]
      · rintro source span rfl ofRange
        exact absurd ofRange ofConstruct.not_ofRange
  | @range first dash last source within between refused =>
      obtain ⟨offset, ts, eq, -, filled, -, cuts⟩ :=
        exists_cuts_of_infix (.emptyAt pattern.utf8ByteSize) tokens within (List.cons_ne_nil _ _)
      have ofRange := CharacterClass.ofRange_of_ofTokens refused
      have three : ts = [first.token, dash.token, last.token] := by
        rw [← @tokens_layout offset ts, ← eq]
        rfl
      refine ⟨_, cuts, fun empty => absurd empty filled,
        fun ofConstruct => absurd ofRange ofConstruct.not_ofRange, ?_⟩
      rintro source span ⟨⟩ -
      refine ⟨ls, first, dash, last, tokens, within, refused, ?_⟩
      rw [three, between]
      simp only [List.map_cons, List.map_nil, String.join_cons, String.join_nil, String.append_empty,
        String.append_assoc]
      rfl

end ParseError

/-- The span of a parse error `Cuts` a slice out of the pattern, which is empty only for `unexpectedEnd`. A
    problem `OfConstruct` is the problem of its slice as a whole, and the slice of one `OfRange` is a range
    that `CharacterClass.ofTokens` refuses. -/
theorem exists_slice_of_parse_eq_error {pattern : String} {e : ParseError}
    (refused : parse pattern = .error e) :
    e.span.start ≤ e.span.stop ∧ e.span.stop ≤ pattern.utf8ByteSize ∧
      (e.span.start = e.span.stop → e = .grammar .unexpectedEnd (.emptyAt pattern.utf8ByteSize)) ∧
      ∃ slice, e.span.Cuts pattern slice ∧
        (e.OfConstruct → parse slice = .error (e.mapSpan fun _ => ⟨0, e.span.stop - e.span.start⟩)) ∧
        ∀ source span, e = .invalid source span → source.OfRange →
          ∃ ls first dash last, tokenize pattern = .ok ls ∧ [first, dash, last] <:+: ls ∧
            CharacterClass.ofTokens first.token last.token = .error source ∧
            slice = first.token.text ++ "-" ++ last.token.text := by
  have pointed : ∃ slice, e.PointsTo pattern slice := by
    unfold parse at refused
    split at refused
    · next le lexed =>
        cases refused
        exact ⟨_, ParseError.pointsTo_of_tokenize lexed⟩
    · next ls tokens => exact (stands_of_parseLexemes refused).exists_pointsTo tokens
  obtain ⟨slice, cuts, filled, alone, boundaries⟩ := pointed
  obtain ⟨length, fits⟩ := cuts.bounds
  have size : e.span.stop - e.span.start = slice.utf8ByteSize := by omega
  refine ⟨by omega, fits, fun empty => filled ?_, slice, cuts, ?_, boundaries⟩
  · exact String.utf8ByteSize_eq_zero_iff.mp (by omega)
  · rwa [size]

theorem exists_slice_of_parse_eq_error_inverted :
    parse "é(b{3,1})" = .error (.invalid (.invertedBounds 3 1) ⟨3, 9⟩) ∧
      Span.Cuts ⟨3, 9⟩ "é(b{3,1})" "b{3,1}" ∧
      parse "b{3,1}" = .error (.invalid (.invertedBounds 3 1) ⟨0, 6⟩) := by
  have refused : parse "é(b{3,1})" = .error (.invalid (.invertedBounds 3 1) ⟨3, 9⟩) := by decide +kernel
  have letter : Span.Cuts ⟨3, 9⟩ "é(b{3,1})" "b{3,1}" :=
    ⟨"é(", ")", by decide +kernel, by decide +kernel⟩
  obtain ⟨-, -, -, slice, cuts, alone, -⟩ := exists_slice_of_parse_eq_error refused
  cases cuts.unique letter
  exact ⟨refused, letter, alone trivial⟩

end PatternSampler
