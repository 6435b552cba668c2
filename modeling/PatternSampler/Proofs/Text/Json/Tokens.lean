import Mathlib
import PatternSampler.Proofs.Text.Json.Grammar

/-! # Reading the tokens of a document

Characters, strings, tokens and whole texts are read one inside the other. Each reader answers exactly
what the grammar says is there, and says what is left behind it.
-/

namespace PatternSampler.Json

open Toml (scalarChar?)

/-! ## Characters -/

theorem scalarChar?_eq_some_iff {n : Nat} {c : Char} : scalarChar? n = some c ↔ n = c.toNat := by
  constructor
  · intro known
    rw [scalarChar?] at known
    split_ifs at known with valid
    cases known
    exact (Char.toNat_ofNatAux valid).symm
  · rintro rfl
    have valid : c.toNat.isValidChar := c.valid
    have same := c.ofNat_toNat
    rw [Char.ofNat, dif_pos valid] at same
    rw [scalarChar?, dif_pos valid, same]

@[simp] theorem scalarChar?_toNat (c : Char) : scalarChar? c.toNat = some c :=
  scalarChar?_eq_some_iff.mpr rfl

theorem scalarChar?_of_pair {high low code : Nat} (pair : pair? high low = some code) :
    scalarChar? high = none := by
  rw [pair?] at pair
  split_ifs at pair with surrogates
  rw [scalarChar?, dif_neg]
  simp only [Nat.isValidChar]
  omega

/-- The code unit that is written out first, and what is behind it. -/
def escaped? : List Char → Option (Nat × List Char)
  | '\\' :: 'u' :: rest => (unit? (rest.take 4)).map (·, rest.drop 4)
  | _ => none

theorem exists_digits_of_escaped {cs rest : List Char} {n : Nat} (read : escaped? cs = some (n, rest)) :
    ∃ digits, unit? digits = some n ∧ cs = '\\' :: 'u' :: digits ++ rest := by
  rw [escaped?.eq_def] at read
  split at read
  case h_1 after =>
    obtain ⟨code, known, same⟩ := Option.map_eq_some_iff.mp read
    cases same
    exact ⟨after.take 4, known, by simp⟩
  case h_2 => cases read

theorem escaped_of_digits {digits : List Char} {n : Nat} (code : unit? digits = some n)
    (rest : List Char) : escaped? ('\\' :: 'u' :: digits ++ rest) = some (n, rest) := by
  have four : digits.length = 4 := by
    rw [unit?] at code
    split_ifs at code with four
    exact four
  simp [escaped?, ← four, code]

/-- The character that comes first in a string where no code unit is written out. -/
def unescaped? : List Char → Option (Char × List Char)
  | '\\' :: e :: rest => (short? e).map (·, rest)
  | c :: rest => if ' ' ≤ c ∧ c ≠ '"' ∧ c ≠ '\\' then some (c, rest) else none
  | [] => none

/-- The character that comes first in a string, and what is behind it. -/
def char? (cs : List Char) : Option (Char × List Char) :=
  match escaped? cs with
  | none => unescaped? cs
  | some (n, rest) =>
    match scalarChar? n with
    | some c => some (c, rest)
    | none => do
      let (m, rest) ← escaped? rest
      return (← scalarChar? (← pair? n m), rest)

variable {cs rest spelling : List Char} {c : Char}

theorem exists_spelling_of_unescaped (read : unescaped? cs = some (c, rest)) :
    ∃ spelling, CharSpelling c spelling ∧ cs = spelling ++ rest := by
  rw [unescaped?.eq_def] at read
  split at read
  case h_1 e after =>
    obtain ⟨c', known, same⟩ := Option.map_eq_some_iff.mp read
    cases same
    exact ⟨_, .short known, rfl⟩
  case h_2 =>
    split_ifs at read with plain
    cases read
    exact ⟨_, .plain plain.1 plain.2.1 plain.2.2, rfl⟩
  case h_3 => cases read

theorem exists_spelling_of_char (read : char? cs = some (c, rest)) :
    ∃ spelling, CharSpelling c spelling ∧ cs = spelling ++ rest := by
  rw [char?] at read
  split at read
  case h_1 => exact exists_spelling_of_unescaped read
  case h_2 n after first =>
    obtain ⟨digits, code, rfl⟩ := exists_digits_of_escaped first
    split at read
    case h_1 c' whole =>
      cases read
      exact ⟨_, .unit (scalarChar?_eq_some_iff.mp whole ▸ code), rfl⟩
    case h_2 =>
      simp only [Option.bind_eq_bind, Option.bind_eq_some_iff] at read
      obtain ⟨⟨m, after⟩, second, code', both, c', known, same⟩ := read
      cases same
      obtain ⟨digits', low, rfl⟩ := exists_digits_of_escaped second
      exact ⟨_, .pair code low (scalarChar?_eq_some_iff.mp known ▸ both), by simp⟩

theorem char_of_spelling (spelled : CharSpelling c spelling) (rest : List Char) :
    char? (spelling ++ rest) = some (c, rest) := by
  cases spelled with
  | plain visible no_quote no_escape =>
      have none : escaped? ([c] ++ rest) = none := by simp [escaped?, no_escape]
      rw [char?, none]
      simp [unescaped?, visible, no_quote, no_escape]
  | @short e known =>
      have other : e ≠ 'u' := by
        rintro rfl
        cases known
      have none : escaped? (['\\', e] ++ rest) = none := by simp [escaped?, other]
      rw [char?, none]
      simp [unescaped?, known]
  | unit code =>
      rw [char?, escaped_of_digits code]
      simp
  | pair high low code =>
      rw [char?, List.append_assoc, escaped_of_digits high]
      simp only [scalarChar?_of_pair code, escaped_of_digits low]
      simp [code]

example : char? "\\ud83d\\ude00!".toList = some ('😀', ['!']) := by decide +kernel

/-! ## Strings -/

theorem CharSpelling.exists_cons (spelled : CharSpelling c spelling) :
    ∃ first others, first ≠ '"' ∧ spelling = first :: others := by
  cases spelled with
  | plain _ no_quote => exact ⟨_, _, no_quote, rfl⟩
  | short | unit | pair => exact ⟨'\\', _, by decide, rfl⟩

theorem length_lt_of_char (read : char? cs = some (c, rest)) : rest.length < cs.length := by
  obtain ⟨spelling, spelled, rfl⟩ := exists_spelling_of_char read
  obtain ⟨first, others, -, rfl⟩ := spelled.exists_cons
  simp

/-- The characters up to the quote that ends a string, and what is behind it. -/
def string? (cs : List Char) : Option (List Char × List Char) :=
  if cs.head? = some '"' then some ([], cs.tail)
  else
    match _read : char? cs with
    | none => none
    | some (c, after) => (string? after).map fun (s, rest) => (c :: s, rest)
termination_by cs.length
decreasing_by exact length_lt_of_char _read

theorem exists_spellings_of_string {s : List Char} (read : string? cs = some (s, rest)) :
    ∃ spellings, List.Forall₂ CharSpelling s spellings ∧ cs = spellings.flatten ++ '"' :: rest := by
  fun_induction string? cs generalizing s with
  | case1 cs quote =>
      cases read
      exact ⟨[], .nil, (List.cons_head?_tail quote).symm⟩
  | case2 => cases read
  | case3 cs _ c after first ih =>
      obtain ⟨⟨s, rest⟩, others, same⟩ := Option.map_eq_some_iff.mp read
      cases same
      obtain ⟨spelling, spelled, rfl⟩ := exists_spelling_of_char first
      obtain ⟨spellings, each, rfl⟩ := ih others
      exact ⟨spelling :: spellings, .cons spelled each, by simp⟩

theorem string_of_spellings {s : List Char} {spellings : List (List Char)}
    (each : List.Forall₂ CharSpelling s spellings) (rest : List Char) :
    string? (spellings.flatten ++ '"' :: rest) = some (s, rest) := by
  induction each with
  | nil =>
      rw [string?]
      simp
  | @cons c spelling s spellings spelled _ ih =>
      have read := char_of_spelling spelled (spellings.flatten ++ '"' :: rest)
      obtain ⟨first, others, no_quote, rfl⟩ := spelled.exists_cons
      rw [List.flatten_cons, List.append_assoc, string?, if_neg (by simpa using no_quote)]
      split
      case h_1 none => cases read.symm.trans none
      case h_2 c' after some =>
        cases read.symm.trans some
        rw [ih]
        rfl

/-! ## Numbers -/

/-- The number that comes first, and what is behind its digits. -/
def number? (cs : List Char) : Option (Nat × List Char) :=
  let digits := cs.takeWhile Char.isDigit
  if digits.head? = some '0' → digits = ['0'] then
    some (Nat.ofDigitChars 10 digits 0, cs.dropWhile Char.isDigit)
  else none

theorem stops_dropWhile (cs : List Char) : Stops (cs.dropWhile Char.isDigit) := by
  intro c first
  have after := List.head?_dropWhile_not Char.isDigit cs
  rw [first] at after
  simpa using after

theorem exists_digits_of_number {n : Nat} (read : number? cs = some (n, rest))
    (digit : ∃ c ∈ cs.head?, c.isDigit) :
    ∃ digits, TokenSpelling (.number n) digits ∧ Stops rest ∧ cs = digits ++ rest := by
  rw [number?] at read
  split_ifs at read with no_zero
  cases read
  refine ⟨_, .number ?_ (fun c member => List.mem_takeWhile_imp member) no_zero, stops_dropWhile cs,
    List.takeWhile_append_dropWhile.symm⟩
  obtain ⟨c, first, digit⟩ := digit
  rw [List.eq_cons_of_mem_head? first, List.takeWhile_cons_of_pos digit]
  exact List.cons_ne_nil _ _

theorem number_of_digits {digits : List Char} (only : ∀ c ∈ digits, c.isDigit)
    (no_zero : digits.head? = some '0' → digits = ['0']) (stops : Stops rest) :
    number? (digits ++ rest) = some (Nat.ofDigitChars 10 digits 0, rest) := by
  have none_after : rest.takeWhile Char.isDigit = [] := by
    cases rest with
    | nil => rfl
    | cons c rest => exact List.takeWhile_cons_of_neg (stops c rfl)
  have all_after : rest.dropWhile Char.isDigit = rest := by
    cases rest with
    | nil => rfl
    | cons c rest => exact List.dropWhile_cons_of_neg (stops c rfl)
  rw [number?, List.takeWhile_append_of_pos only, none_after, List.append_nil, if_pos no_zero,
    List.dropWhile_append_of_pos only, all_after]

/-! ## Tokens -/

/-- The token that comes first, and what is behind it. -/
def token? : List Char → Option (JsonToken × List Char)
  | [] => none
  | c :: cs =>
    if c = '"' then (string? cs).map fun (s, rest) => (.string (String.ofList s), rest)
    else if c.isDigit then (number? (c :: cs)).map fun (n, rest) => (.number n, rest)
    else (JsonToken.ofMark? c).map (·, cs)

variable {t : JsonToken} {ts : List JsonToken}

theorem exists_spelling_of_token (read : token? cs = some (t, rest)) :
    ∃ spelling, TokenSpelling t spelling ∧ (t.IsNumber → Stops rest) ∧ cs = spelling ++ rest := by
  cases cs with
  | nil => cases read
  | cons c cs =>
      rw [token?] at read
      split_ifs at read with quote digit
      · obtain ⟨⟨s, rest⟩, inside, same⟩ := Option.map_eq_some_iff.mp read
        cases same
        obtain ⟨spellings, each, rfl⟩ := exists_spellings_of_string inside
        rw [← String.toList_ofList (l := s)] at each
        exact ⟨_, .string each, nofun, by simp [quote]⟩
      · obtain ⟨⟨n, rest⟩, number, same⟩ := Option.map_eq_some_iff.mp read
        cases same
        obtain ⟨digits, spelled, stops, whole⟩ := exists_digits_of_number number ⟨c, rfl, digit⟩
        exact ⟨digits, spelled, fun _ => stops, whole⟩
      · obtain ⟨t, known, same⟩ := Option.map_eq_some_iff.mp read
        cases same
        exact ⟨_, .mark known, fun number => absurd number (mark_ne known).2.2.2, rfl⟩

theorem token_of_spelling (spelled : TokenSpelling t spelling) (whole : t.IsNumber → Stops rest) :
    token? (spelling ++ rest) = some (t, rest) := by
  cases spelled with
  | mark known =>
      obtain ⟨no_quote, no_digit, -, -⟩ := mark_ne known
      simp [token?, no_quote, no_digit, known]
  | string each =>
      have inside := string_of_spellings each rest
      simp [token?, inside]
  | number some_digit only no_zero =>
      have number := number_of_digits only no_zero (whole trivial)
      obtain ⟨c, digits, rfl⟩ := List.exists_cons_of_ne_nil some_digit
      have digit := only c List.mem_cons_self
      have no_quote : c ≠ '"' := by
        rintro rfl
        cases digit
      rw [List.cons_append] at number ⊢
      rw [token?, if_neg no_quote, if_pos digit, number]
      rfl

theorem TokenSpelling.exists_cons (spelled : TokenSpelling t spelling) :
    ∃ first others, ¬isBlank first ∧ spelling = first :: others := by
  cases spelled with
  | mark known => exact ⟨_, _, by simp [mark_ne known], rfl⟩
  | string => exact ⟨_, _, by decide, rfl⟩
  | number some_digit only =>
      obtain ⟨c, digits, rfl⟩ := List.exists_cons_of_ne_nil some_digit
      have digit := only c List.mem_cons_self
      refine ⟨c, digits, fun blank => ?_, rfl⟩
      simp only [isBlank, Bool.or_eq_true, decide_eq_true_eq] at blank
      rcases blank with ((rfl | rfl) | rfl) | rfl <;> cases digit

theorem length_lt_of_token (read : token? cs = some (t, rest)) : rest.length < cs.length := by
  obtain ⟨spelling, spelled, -, rfl⟩ := exists_spelling_of_token read
  obtain ⟨first, others, -, rfl⟩ := spelled.exists_cons
  simp

/-- The tokens of a text. -/
def cut? : List Char → Option (List JsonToken)
  | [] => some []
  | c :: cs =>
    if isBlank c then cut? cs
    else
      match _read : token? (c :: cs) with
      | none => none
      | some (t, rest) => (cut? rest).map (t :: ·)
termination_by cs => cs.length
decreasing_by
  · exact Nat.lt_succ_self _
  · exact length_lt_of_token _read

theorem cut?_eq_some_iff : cut? cs = some ts ↔ Cut cs ts := by
  constructor
  · intro read
    fun_induction cut? cs generalizing ts with
    | case1 =>
        cases read
        exact .nil
    | case2 c cs blank ih => exact .blank blank (ih read)
    | case3 => cases read
    | case4 c cs _ t rest first ih =>
        obtain ⟨ts, others, rfl⟩ := Option.map_eq_some_iff.mp read
        obtain ⟨spelling, spelled, whole, same⟩ := exists_spelling_of_token first
        rw [same]
        exact .token spelled whole (ih others)
  · intro cut
    induction cut with
    | nil => rw [cut?]
    | blank blank _ ih => rw [cut?, if_pos blank, ih]
    | @token t spelling rest ts spelled whole _ ih =>
        have read := token_of_spelling spelled whole
        obtain ⟨first, others, visible, rfl⟩ := spelled.exists_cons
        rw [List.cons_append, cut?, if_neg visible]
        split
        case h_1 none => cases read.symm.trans none
        case h_2 t' after some =>
          cases read.symm.trans some
          rw [ih]
          rfl

end PatternSampler.Json
