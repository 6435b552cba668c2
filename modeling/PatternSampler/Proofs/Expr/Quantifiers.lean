import Mathlib
import PatternSampler.Proofs.Expr.Readers

/-! # Reading quantifiers

A quantifier of the grammar is read as it is. Behind an opening brace, what is no quantifier is refused
at the first token that cannot stand there, though it might first be passed over as a second bound that
is not there.
-/

namespace PatternSampler

open Setback (NotPast notPast_none notPast_here)

variable {atEnd : Span}

namespace Reader

variable {l : Lexeme} {ts rest : List Lexeme}

/-! ## Numbers -/

theorem many_digit {ds : List Lexeme} (digits : ∀ l ∈ ds, l.token.isDigit)
    (stop : ∀ l ∈ rest.head?, l.token.isDigit = false) :
    many (digit atEnd) (ds ++ rest) =
      .done (ds.map (·.token)) rest (some (.here atEnd .notADigit rest)) := by
  induction ds with
  | nil =>
      rw [List.nil_append, many, digit_refuses stop]
      rfl
  | cons l ds ih =>
      obtain ⟨first, others⟩ := List.forall_mem_cons.mp digits
      rw [List.cons_append, many, digit_takes first]
      simp [ih others, Setback.furthest, Setback.orFurther]

theorem number_refuses (h : ∀ l ∈ ts.head?, l.token.isDigit = false) :
    number atEnd ts = .refused (.here atEnd .notADigit ts) := by
  simp only [number, checked, manyOne, map, followedBy, digit_refuses h]

theorem decimalValue_eq_numeral {digits : List Token} (all : ∀ t ∈ digits, t.isDigit) :
    decimalValue digits = Grammar.numeral digits := by
  have from_any (value : Nat) :
      digits.foldl (fun value t => 10 * value + t.digit?.getD 0) value =
        Nat.ofDigitChars 10 (digits.flatMap Token.spelling) value := by
    induction digits generalizing value with
    | nil => rfl
    | cons t ts ih =>
        obtain ⟨first, others⟩ := List.forall_mem_cons.mp all
        cases t with
        | char c =>
            have digit : c.isDigit := first
            rw [List.foldl_cons, ih others, Token.digit?_char, if_pos digit, Option.getD_some]
            rfl
        | _ => cases first
  exact from_any 0

/-- `number` takes a run of digits to its end and answers their `Grammar.numeral`, or it is refused as
    `tooLarge` where they are `Place.Excessive`. -/
theorem number_of_digits {ds : List Lexeme} (nonempty : ds ≠ []) (digits : ∀ l ∈ ds, l.token.isDigit)
    (stop : ∀ l ∈ rest.head?, l.token.isDigit = false) :
    number atEnd (ds ++ rest) =
      if Place.Excessive ds then .refused (.tooLarge atEnd ds rest)
      else .done (Grammar.numeral (ds.map (·.token))) rest (some (.here atEnd .notADigit rest)) := by
  cases ds with
  | nil => contradiction
  | cons l ds =>
      obtain ⟨first, others⟩ := List.forall_mem_cons.mp digits
      have span := @Span.since_append atEnd _ nonempty rest
      have run := @many_digit atEnd _ _ others stop
      have value := decimalValue_eq_numeral (List.forall_mem_map.mpr digits)
      by_cases large : Place.Excessive (l :: ds)
      · have not_small : ¬Grammar.numeral ((l :: ds).map (·.token)) ≤ Bounds.limit := Nat.not_le.mpr large
        rw [if_pos large, List.cons_append]
        simp only [number, checked, manyOne, map, followedBy, digit_takes first, run,
          ← List.map_cons, value, if_neg not_small, List.flatMap_map, Setback.tooLarge]
        rw [← List.cons_append, span]
      · have small : Grammar.numeral ((l :: ds).map (·.token)) ≤ Bounds.limit := Nat.not_lt.mp large
        rw [if_neg large]
        simp only [number, checked, manyOne, map, followedBy, List.cons_append, digit_takes first, run,
          ← List.map_cons (f := fun l : Lexeme => l.token), value, if_pos small, Setback.furthest,
          Setback.orFurther]

/-! ## Quantifiers -/

open Grammar (Number Quantifier)

def bounds (atEnd : Span) : Reader (Nat × Option (Option Nat)) :=
  (number atEnd).followedBy <| optional <| map (·.2) <|
    (exactly atEnd .comma).followedBy (optional (number atEnd))

theorem braces_eq : braces atEnd = map boundsOf (between atEnd .openBrace .closeBrace (bounds atEnd)) :=
  rfl

theorem bounds_refuses (h : ∀ l ∈ ts.head?, l.token.isDigit = false) :
    bounds atEnd ts = .refused (.here atEnd .notADigit ts) := by
  simp only [bounds, followedBy, number_refuses h]

theorem bounds_refused {ds : List Lexeme} (nonempty : ds ≠ []) (digits : ∀ l ∈ ds, l.token.isDigit)
    (stop : ∀ l ∈ rest.head?, l.token.isDigit = false) (large : Place.Excessive ds) :
    bounds atEnd (ds ++ rest) = .refused (.tooLarge atEnd ds rest) := by
  simp only [bounds, followedBy, number_of_digits nonempty digits stop, if_pos large]

theorem number_reads {ds : List Lexeme} {n : Nat} (number : Number ds n)
    (stop : ∀ l ∈ rest.head?, l.token.isDigit = false) :
    (Reader.number atEnd).Reads (ds ++ rest) n rest := by
  refine ⟨_, ?_, @notPast_here atEnd .notADigit rest⟩
  rw [number_of_digits number.nonempty number.digits stop, if_neg (Place.not_excessive number),
    number.value]

theorem bounds_reads_exactly {ds : List Lexeme} {n : Nat} (number : Number ds n)
    (stop : ∀ l ∈ rest.head?, l.token.isDigit = false) (no_comma : ∀ l ∈ rest.head?, l.token ≠ .comma) :
    (bounds atEnd).Reads (ds ++ rest) (n, none) rest := by
  have tail_refused : map (·.2) ((exactly atEnd .comma).followedBy (optional (Reader.number atEnd))) rest =
      .refused (.here atEnd .unexpected rest) := by
    simp only [map, followedBy, exactly_refuses no_comma]
  exact (number_reads number stop).followedBy (optional_reads_none tail_refused (by simp)) le_rfl

theorem bounds_reads_atLeast {ds : List Lexeme} {n : Nat} {comma : Lexeme} (number : Number ds n)
    (between : comma.token = .comma) (stop : ∀ l ∈ rest.head?, l.token.isDigit = false) :
    (bounds atEnd).Reads (ds ++ comma :: rest) (n, some none) rest := by
  have comma_stops : ∀ l ∈ (comma :: rest).head?, l.token.isDigit = false := by
    simp [between, Token.isDigit]
  have no_maximum : (optional (Reader.number atEnd)).Reads rest none rest :=
    optional_reads_none (number_refuses stop) (by simp)
  exact (number_reads number comma_stops).followedBy
    (((exactly_reads between).followedBy no_maximum le_rfl).map _).optional (by simp)

theorem bounds_reads_range {ds us : List Lexeme} {n m : Nat} {comma : Lexeme} (number : Number ds n)
    (between : comma.token = .comma) (number' : Number us m)
    (stop : ∀ l ∈ rest.head?, l.token.isDigit = false) :
    (bounds atEnd).Reads (ds ++ comma :: (us ++ rest)) (n, some (some m)) rest := by
  have comma_stops : ∀ l ∈ (comma :: (us ++ rest)).head?, l.token.isDigit = false := by
    simp [between, Token.isDigit]
  exact (number_reads number comma_stops).followedBy
    (((exactly_reads between).followedBy (number_reads number' stop).optional (by simp)).map _).optional
    (by simp; omega)

theorem quantifier_eq_braces (star : ∀ l ∈ ts.head?, l.token ≠ .star)
    (plus : ∀ l ∈ ts.head?, l.token ≠ .plus) (question : ∀ l ∈ ts.head?, l.token ≠ .question) :
    ∃ singles : Reader Bounds, quantifier atEnd = singles.orElse (braces atEnd) ∧
      singles ts = .refused (.here atEnd .unexpected ts) := by
  refine ⟨_, rfl, ?_⟩
  rw [refused_orElse (refused_orElse (map_refused (exactly_refuses star) _)
    (map_refused (exactly_refuses plus) _)) (map_refused (exactly_refuses question) _)]
  simp

/-- The reader `quantifier` takes what `Grammar.Quantifier` derives, whatever follows. -/
theorem quantifier_reads {bs : Bounds} (h : Quantifier ts bs) (rest : List Lexeme) :
    (quantifier atEnd).Reads (ts ++ rest) bs rest := by
  have of_braces {opening : Lexeme} {us : List Lexeme} {x : Nat × Option (Option Nat)}
      (opens : opening.token = .openBrace)
      (inner : (between atEnd .openBrace .closeBrace (bounds atEnd)).Reads (opening :: us) x rest) :
      (quantifier atEnd).Reads (opening :: us) (boundsOf x) rest := by
    obtain ⟨singles, eq, refused⟩ :=
      @quantifier_eq_braces atEnd (opening :: us) (by simp [opens]) (by simp [opens]) (by simp [opens])
    rw [eq, braces_eq]
    exact Reads.orElse_other refused (inner.map _)
  have stop {closing : Lexeme} (closes : closing.token = .closeBrace) :
      ∀ l ∈ (closing :: rest).head?, l.token.isDigit = false := by
    simp [closes, Token.isDigit]
  cases h with
  | star token => exact (((exactly_reads token).map _).orElse.orElse).orElse
  | @plus l token =>
      have not_star := @exactly_refuses_cons atEnd l rest .star (by simp [token])
      exact ((Reads.orElse_other (map_refused not_star _) ((exactly_reads token).map _)).orElse).orElse
  | @question l token =>
      have not_star := @exactly_refuses_cons atEnd l rest .star (by simp [token])
      have not_plus := @exactly_refuses_cons atEnd l rest .plus (by simp [token])
      exact (Reads.orElse_other (refused_orElse (map_refused not_star _) (map_refused not_plus _))
        ((exactly_reads token).map _)).orElse
  | @exactly opening closing ds n opens number closes =>
      have inner := @bounds_reads_exactly atEnd (closing :: rest) _ _ number (stop closes)
        (by simp [closes])
      simpa [boundsOf] using of_braces opens (between_reads opens inner (by simp; omega) closes)
  | @atLeast opening comma closing ds n opens number between closes =>
      have inner := @bounds_reads_atLeast atEnd (closing :: rest) _ _ _ number between (stop closes)
      simpa [boundsOf] using of_braces opens (between_reads opens inner (by simp; omega) closes)
  | @range opening comma closing ds us n m opens number between number' closes =>
      have inner := @bounds_reads_range atEnd (closing :: rest) _ _ _ _ _ number between number'
        (stop closes)
      simpa [boundsOf] using of_braces opens (between_reads opens inner (by simp; omega) closes)

theorem quantifier_refuses (h : ∀ l ∈ ts.head?, l.token.startsQuantifier = false) :
    quantifier atEnd ts = .refused (.here atEnd .unexpected ts) := by
  have no_quantifier {t : Token} (starts : t.startsQuantifier) : ∀ l ∈ ts.head?, l.token ≠ t := by
    intro l first token
    rw [← token, h l first] at starts
    cases starts
  obtain ⟨singles, eq, refused⟩ := @quantifier_eq_braces atEnd ts (no_quantifier rfl)
    (no_quantifier rfl) (no_quantifier rfl)
  rw [eq, braces_eq,
    refused_orElse refused (map_refused (between_refuses (no_quantifier rfl)) _)]
  simp

theorem quantifier_refused {opening : Lexeme} {s : Setback} (opens : opening.token = .openBrace)
    (inner : between atEnd .openBrace .closeBrace (bounds atEnd) (opening :: ts) = .refused s)
    (within : s.left ≤ ts.length) : quantifier atEnd (opening :: ts) = .refused s := by
  obtain ⟨singles, eq, refused⟩ :=
    @quantifier_eq_braces atEnd (opening :: ts) (by simp [opens]) (by simp [opens]) (by simp [opens])
  have nearer : ¬(Setback.here atEnd .unexpected (opening :: ts)).left < s.left := by
    rw [Setback.here_left, List.length_cons]
    omega
  rw [eq, braces_eq, refused_orElse refused (map_refused inner _), Setback.orFurther, if_neg nearer]

theorem bounds_done_before_large {ds us : List Lexeme} {n : Nat} {comma : Lexeme} (number : Number ds n)
    (between : comma.token = .comma) (nonempty : us ≠ []) (digits : ∀ l ∈ us, l.token.isDigit)
    (stop : ∀ l ∈ rest.head?, l.token.isDigit = false) (large : Place.Excessive us) :
    bounds atEnd (ds ++ comma :: (us ++ rest)) =
      .done (n, some none) (us ++ rest) (some (.tooLarge atEnd us rest)) := by
  -- The second number is optional, so it is left out here, and refused where the brace should be.
  have comma_stops : ∀ l ∈ (comma :: (us ++ rest)).head?, l.token.isDigit = false := by
    simp [between, Token.isDigit]
  obtain ⟨alt, done, behind⟩ := @number_reads atEnd _ _ _ number comma_stops
  have kept : (Setback.tooLarge atEnd us rest).orFurther alt = .tooLarge atEnd us rest :=
    behind.orFurther (by simp [Setback.tooLarge]; omega)
  simp only [bounds, followedBy, done, optional, map, exactly_takes between,
    number_of_digits nonempty digits stop, if_pos large, Setback.furthest, Setback.orFurther_none, kept]

section Braces

variable {opening : Lexeme} {s : Setback}

theorem quantifier_of_comma {ds : List Lexeme} {n : Nat} {comma : Lexeme}
    (opens : opening.token = .openBrace) (number : Number ds n) (between : comma.token = .comma)
    (ts : List Lexeme) :
    (∃ us rest bs, ts = us ++ rest ∧ Quantifier (opening :: (ds ++ comma :: us)) bs) ∨
      ∃ s, quantifier atEnd (opening :: (ds ++ comma :: ts)) = .refused s ∧ s.left ≤ ts.length ∧
        ∀ d, Place.fault atEnd (.comma d) ts = some s := by
  obtain ⟨us, rest, rfl, digits, stop⟩ := exists_run (·.token.isDigit) ts
  by_cases nonempty : us = []
  · subst nonempty
    rcases begins_or_not .closeBrace rest with ⟨closing, rest, rfl, closes⟩ | unclosed
    · exact .inl ⟨[closing], rest, _, rfl, .atLeast opens number between closes⟩
    · refine .inr ⟨_, quantifier_refused opens (between_reads_not_closed opens
        (bounds_reads_atLeast number between stop) unclosed) (by simp; omega), by simp, fun d => ?_⟩
      exact Place.fault_stuck (fun l first => by simp [Place.next?, stop l first, unclosed l first]) rfl
  have fault_rest (d : Nat) :
      Place.fault atEnd (.comma d) (us ++ rest) = Place.fault atEnd (.maximum d us) rest :=
    Place.fault_append (Place.run_comma nonempty digits)
  by_cases large : Place.Excessive us
  · have digit_first : ∀ l ∈ (us ++ rest).head?, l.token ≠ .closeBrace := by
      intro l first closes
      rw [List.head?_append_of_ne_nil _ nonempty] at first
      have digit := digits l (List.mem_of_mem_head? first)
      rw [closes] at digit
      cases digit
    have further : (Setback.here atEnd .unexpected (us ++ rest)).orFurther
        (some (.tooLarge atEnd us rest)) = .tooLarge atEnd us rest := by
      have longer : 0 < us.length := List.length_pos_of_ne_nil nonempty
      exact if_pos (by simp [Setback.tooLarge]; omega)
    have refused : Reader.between atEnd .openBrace .closeBrace (bounds atEnd)
        (opening :: (ds ++ comma :: (us ++ rest))) = .refused (.tooLarge atEnd us rest) := by
      rw [between_not_closed opens
        (bounds_done_before_large number between nonempty digits stop large) digit_first, further]
    refine .inr ⟨_, quantifier_refused opens refused (by simp [Setback.tooLarge]; omega),
      by simp [Setback.tooLarge], fun d => ?_⟩
    rw [fault_rest, Place.fault_stuck (fun l first => by simp [Place.next?, stop l first, large]) rfl,
      Place.refusal, if_pos large]
  have number' := Place.number_of_not_excessive nonempty digits large
  rcases begins_or_not .closeBrace rest with ⟨closing, rest, rfl, closes⟩ | unclosed
  · exact .inl ⟨us ++ [closing], rest, _, by simp, .range opens number between number' closes⟩
  · refine .inr ⟨_, quantifier_refused opens (between_reads_not_closed opens
      (bounds_reads_range number between number' stop) unclosed) (by simp; omega), by simp, fun d => ?_⟩
    rw [fault_rest, Place.fault_stuck (fun l first => by
      simp [Place.next?, stop l first, large, unclosed l first]) rfl, Place.refusal, if_neg large]

theorem quantifier_of_openBrace (opens : opening.token = .openBrace) (ts : List Lexeme) :
    (∃ us rest bs, ts = us ++ rest ∧ Quantifier (opening :: us) bs) ∨
      ∃ s, quantifier atEnd (opening :: ts) = .refused s ∧ s.left ≤ ts.length ∧
        ∀ d, Place.fault atEnd (.bounds d) ts = some s := by
  obtain ⟨ds, rest, rfl, digits, stop⟩ := exists_run (·.token.isDigit) ts
  by_cases nonempty : ds = []
  · subst nonempty
    refine .inr ⟨_, quantifier_refused opens (between_refused opens (bounds_refuses stop)) (by simp),
      by simp, fun d => ?_⟩
    exact Place.fault_stuck (fun l first => by simp [Place.next?, stop l first]) rfl
  have fault_rest (d : Nat) :
      Place.fault atEnd (.bounds d) (ds ++ rest) = Place.fault atEnd (.minimum d ds) rest :=
    Place.fault_append (Place.run_bounds nonempty digits)
  by_cases large : Place.Excessive ds
  · refine .inr ⟨_, quantifier_refused opens (between_refused opens
      (bounds_refused nonempty digits stop large)) (by simp [Setback.tooLarge]),
      by simp [Setback.tooLarge], fun d => ?_⟩
    rw [fault_rest, Place.fault_stuck (fun l first => by simp [Place.next?, stop l first, large]) rfl,
      Place.refusal, if_pos large]
  have number := Place.number_of_not_excessive nonempty digits large
  rcases begins_or_not .closeBrace rest with ⟨closing, rest, rfl, closes⟩ | unclosed
  · exact .inl ⟨ds ++ [closing], rest, _, by simp, .exactly opens number closes⟩
  rcases begins_or_not .comma rest with ⟨comma, rest, rfl, between⟩ | no_comma
  · have next (d : Nat) : Place.fault atEnd (.minimum d ds) (comma :: rest) =
        Place.fault atEnd (.comma d) rest :=
      Place.fault_cons (Place.next?_comma large between)
    rcases @quantifier_of_comma atEnd _ _ _ _ opens number between rest with
      ⟨us, rest, bs, rfl, quantifier⟩ | ⟨s, refused, within, fault⟩
    · exact .inl ⟨ds ++ comma :: us, rest, bs, by simp, quantifier⟩
    · refine .inr ⟨s, refused, by simp; omega, fun d => ?_⟩
      rw [fault_rest, next, fault]
  · refine .inr ⟨_, quantifier_refused opens (between_reads_not_closed opens
      (bounds_reads_exactly number stop no_comma) unclosed) (by simp), by simp, fun d => ?_⟩
    rw [fault_rest, Place.fault_stuck (fun l first => by
      simp [Place.next?, stop l first, large, unclosed l first, no_comma l first]) rfl,
      Place.refusal, if_neg large]

end Braces

/-- The tokens begin with a `Grammar.Quantifier`, or with a token that no quantifier starts with, or
    `quantifier` is refused behind an opening brace for the `Place.fault` there. -/
theorem quantifier_cases (ts : List Lexeme) :
    (∃ us rest bs, ts = us ++ rest ∧ Quantifier us bs) ∨
      (∀ l ∈ ts.head?, l.token.startsQuantifier = false) ∨
      ∃ s, quantifier atEnd ts = .refused s ∧ s.left < ts.length ∧
        (∀ d, Place.fault atEnd (.atom d) ts = some s) ∧ ∀ l ∈ ts.head?, l.token = .openBrace := by
  cases ts with
  | nil => exact .inr (.inl nofun)
  | cons l ts =>
      cases token : l.token with
      | star => exact .inl ⟨[l], ts, _, rfl, .star token⟩
      | plus => exact .inl ⟨[l], ts, _, rfl, .plus token⟩
      | question => exact .inl ⟨[l], ts, _, rfl, .question token⟩
      | openBrace =>
          rcases @quantifier_of_openBrace atEnd l token ts with
            ⟨us, rest, bs, rfl, quantifier⟩ | ⟨s, refused, within, fault⟩
          · exact .inl ⟨l :: us, rest, bs, rfl, quantifier⟩
          · refine .inr (.inr ⟨s, refused, Nat.lt_succ_of_le within, fun d => ?_, forall_head_cons token⟩)
            rw [Place.fault_cons (Place.next?_openBrace token), fault]
      | caret | dollar | period | pipe | openParen | closeParen | openBracket | closeBracket
      | closeBrace | dash | comma | escape c | char c =>
          exact .inr (.inl (forall_head_cons (by rw [token]; rfl)))

end Reader

end PatternSampler
