import Mathlib
import PatternSampler.Proofs.Text.Lines
import PatternSampler.Proofs.Token.Layout
import PatternSampler.Token.Listing

/-! # Reading a listing back

A line of a listing quotes nothing and pads what it says with blanks, and a token can be a blank. All the
same the line says which token it is about. The kind ends at the first blank and tells how many characters
of the token follow, and the span ends the line. A listing is not as good as its lines, though. A line
feed is a token like others and breaks its own line in two.
-/

namespace PatternSampler

open Text

/-! ## Pieces of a line -/

theorem Span.text_inj {span span' : Span} (same : span.text = span'.text) : span = span' := by
  have digits := congrArg String.toList same
  have dots : "..".toList = ['.', '.'] := rfl
  simp only [text, String.toList_append, dots, List.append_assoc, List.cons_append,
    List.nil_append] at digits
  obtain ⟨starts, -, rest⟩ := run_append_inj (p := fun c => c.isDigit) isDigit_of_mem_toString
    isDigit_of_mem_toString (by decide) (by decide) digits
  have starts := Nat.repr_inj.mp (String.toList_inj.mp starts)
  have stops := Nat.repr_inj.mp (String.toList_inj.mp (List.cons.inj rest).2)
  cases span
  cases span'
  exact congrArg₂ mk starts stops

theorem Span.isDigit_or_dot_of_mem_text {span : Span} :
    ∀ c ∈ span.text.toList, c.isDigit ∨ c = '.' := by
  intro c member
  have dots : "..".toList = ['.', '.'] := rfl
  simp only [text, String.toList_append, dots, List.mem_append] at member
  rcases member with (start | dot) | stop
  · exact .inl (isDigit_of_mem_toString c start)
  · exact .inr (by simpa using dot)
  · exact .inl (isDigit_of_mem_toString c stop)

theorem Span.feed_notMem_text (span : Span) : '\n' ∉ span.text.toList := fun member => by
  rcases isDigit_or_dot_of_mem_text _ member with digit | dot
  · exact absurd digit (by decide)
  · exact absurd dot (by decide)

theorem Span.goesOn_text (span : Span) : GoesOn span.text := by
  rcases List.eq_nil_or_concat span.text.toList with none | ⟨cs, c, ends⟩
  · simp [text, String.toList_append] at none
  · have member : c ∈ span.text.toList := by simp [ends]
    exact ⟨cs, c, by simpa using ends, fun feed => span.feed_notMem_text (feed ▸ member)⟩

theorem toList_column (width : Nat) (text : String) :
    (padRight width text ++ " ").toList =
      text.toList ++ ' ' :: List.replicate (width - text.length) ' ' := by
  rw [padRight, String.toList_append, String.toList_append, String.toList_ofList, List.append_assoc]
  exact congrArg (text.toList ++ ·) List.replicate_succ'.symm

namespace Token

variable {t t' : Token} {xs ys : List Char}

theorem kindName_cases (same : t.kindName = t'.kindName) :
    t = t' ∨ (∃ c d, t = escape c ∧ t' = escape d) ∨ ∃ c d, t = char c ∧ t' = char d := by
  cases t <;> cases t' <;> first | exact .inl rfl | simp [kindName] at same ⊢

theorem eq_of_kindName (kinds : t.kindName = t'.kindName)
    (texts : t.spelling ++ xs = t'.spelling ++ ys) : t = t' := by
  rcases kindName_cases kinds with same | ⟨c, d, rfl, rfl⟩ | ⟨c, d, rfl, rfl⟩
  · exact same
  · simp_all [spelling]
  · simp_all [spelling, literal?]

theorem isAlpha_of_mem_kindName (t : Token) : t.kindName.toList.all Char.isAlpha := by
  cases t <;> simp only [kindName] <;> rfl

end Token

namespace Lexeme

theorem toList_listingLine (l : Lexeme) : l.listingLine.toList =
    l.token.kindName.toList ++ ' ' ::
      (List.replicate (Listing.columns.kind - l.token.kindName.length) ' ' ++
        (l.token.spelling ++ ' ' ::
          (List.replicate (Listing.columns.text - l.token.text.length) ' ' ++ l.span.text.toList))) := by
  rw [listingLine, String.toList_append, String.append_assoc, String.toList_append, toList_column,
    toList_column, Token.toList_text]
  simp

/-- `Lexeme.listingLine` tells the token and its span. -/
theorem listingLine_inj {l l' : Lexeme} (same : l.listingLine = l'.listingLine) : l = l' := by
  have chars := congrArg String.toList same
  rw [toList_listingLine, toList_listingLine] at chars
  obtain ⟨kinds, -, rest⟩ := run_append_inj (p := fun c => c.isAlpha)
    (List.all_eq_true.mp l.token.isAlpha_of_mem_kindName)
    (List.all_eq_true.mp l'.token.isAlpha_of_mem_kindName) (by decide) (by decide) chars
  have kinds := String.toList_inj.mp kinds
  rw [kinds] at rest
  have tokens := Token.eq_of_kindName kinds (List.append_cancel_left rest)
  rw [tokens] at rest
  have spans := List.append_cancel_left (List.cons.inj (List.append_cancel_left
    (List.append_cancel_left rest))).2
  cases l
  cases l'
  exact congrArg₂ mk tokens (Span.text_inj (String.toList_inj.mp spans))

theorem count_listingLine (l : Lexeme) :
    l.listingLine.toList.count '\n' = l.token.spelling.count '\n' := by
  have kind : l.token.kindName.toList.count '\n' = 0 := List.count_eq_zero.mpr fun member =>
    absurd (List.all_eq_true.mp l.token.isAlpha_of_mem_kindName _ member) (by decide)
  have span : l.span.text.toList.count '\n' = 0 := List.count_eq_zero.mpr l.span.feed_notMem_text
  simp [toList_listingLine, List.count_replicate, kind, span]

theorem goesOn_listingLine (l : Lexeme) : GoesOn l.listingLine := l.span.goesOn_text.append _

end Lexeme

/-! ## Whole listings -/

variable {ls : List Lexeme}

theorem count_spellings (ls : List Lexeme) :
    (ls.map fun l => l.listingLine.toList.count '\n').sum =
      (Token.spellings (ls.map (·.token))).count '\n' := by
  simp only [Lexeme.count_listingLine, Token.spellings, List.count_flatMap, List.map_map]
  rfl

/-- `tokenListing` has a line for each token and one more for each line feed among them. -/
theorem length_lines_tokenListing (ls : List Lexeme) : (lines (tokenListing ls)).length =
    ls.length + (Token.spellings (ls.map (·.token))).count '\n' := by
  by_cases none : ls = []
  · subst none
    rfl
  · have nonempty : ls.map Lexeme.listingLine ≠ [] := by simpa using none
    have each : ∀ text ∈ ls.map Lexeme.listingLine, GoesOn text := by
      simpa using fun l _ => l.goesOn_listingLine
    rw [tokenListing, length_lines (.intercalate nonempty each), count_intercalate nonempty,
      List.length_map, List.map_map, ← count_spellings]
    rfl

theorem lines_tokenListing (no_feed : ∀ l ∈ ls, '\n' ∉ l.token.spelling) :
    lines (tokenListing ls) = ls.map Lexeme.listingLine := by
  refine lines_intercalate ?_ fun last => ?_
  · simp only [List.forall_mem_map, ← List.count_eq_zero, Lexeme.count_listingLine]
    exact fun l member => List.count_eq_zero.mpr (no_feed l member)
  · obtain ⟨l, -, empty⟩ := List.mem_map.mp (List.mem_of_getLast? last)
    exact l.goesOn_listingLine.ne_empty empty

theorem tokenListing_eq_empty_iff : tokenListing ls = "" ↔ ls = [] := by
  constructor
  · intro empty
    have count := length_lines_tokenListing ls
    rw [empty] at count
    exact List.length_eq_zero_iff.mp (Nat.eq_zero_of_add_eq_zero_right count.symm)
  · rintro rfl
    rfl

/-- `tokenListing` has one line for each token exactly if the pattern has no line feed, for a line feed is
    written as it is. Each `listingLine` tells its token and span. -/
theorem tokenListing_of_tokenize {pattern : String} (tokens : tokenize pattern = .ok ls) :
    (tokenListing ls = "" ↔ ls = []) ∧
    (lines (tokenListing ls)).length = ls.length + pattern.toList.count '\n' ∧
    (lines (tokenListing ls) = ls.map Lexeme.listingLine ↔ '\n' ∉ pattern.toList) ∧
    ∀ l l' : Lexeme, l.listingLine = l'.listingLine → l = l' := by
  obtain ⟨ts, -, text, laid_out⟩ := tokenize_eq_ok.mp tokens
  have written : pattern.toList = Token.spellings (ls.map (·.token)) := by
    rw [text, laid_out, Token.tokens_layout, Token.toList_join_text]
  have count := length_lines_tokenListing ls
  rw [← written] at count
  refine ⟨tokenListing_eq_empty_iff, count, ⟨fun all => ?_, fun no_feed => ?_⟩,
    fun l l' same => Lexeme.listingLine_inj same⟩
  · rw [all, List.length_map] at count
    exact List.count_eq_zero.mp (by omega)
  · refine lines_tokenListing fun l member feed => no_feed ?_
    rw [written]
    exact List.mem_flatMap.mpr ⟨l.token, List.mem_map_of_mem member, feed⟩

theorem tokenListing_of_blanks :
    let ls : List Lexeme := [⟨.char ' ', 0, 1⟩, ⟨.escape ' ', 1, 3⟩]
    tokenize " \\ " = .ok ls ∧
      lines (tokenListing ls) = ["Char              0..1", "Escape       \\    1..3"] := by
  intro ls
  have tokens : tokenize " \\ " = .ok ls := by decide +kernel
  obtain ⟨-, -, each, -⟩ := tokenListing_of_tokenize tokens
  have rows : ls.map Lexeme.listingLine = ["Char              0..1", "Escape       \\    1..3"] := by
    decide +kernel
  exact ⟨tokens, (each.mpr (by decide)).trans rows⟩

/-- One token with two lines. -/
theorem tokenListing_of_lineFeed :
    let ls : List Lexeme := [⟨.char '\n', 0, 1⟩]
    tokenize "\n" = .ok ls ∧ ls.length = 1 ∧
      lines (tokenListing ls) = ["Char         ", "    0..1"] := by
  decide +kernel

end PatternSampler
