import Mathlib
import PatternSampler.Proofs.Lists
import PatternSampler.Proofs.Text.Json.Grammar

/-! # What is written is a document

Every value is written as a document of itself, at any level. Line feeds and indents are blanks, strings
are spelled with escapes, and numbers are written without zeros in front.
-/

namespace PatternSampler

open JsonValue

namespace Json

/-! ## Strings and numbers -/

theorem unit_hexDigit : ∀ n < 32, unit? ['0', '0', hexDigit (n / 16), hexDigit n] = some n := by
  decide

theorem charSpelling_stringChar (c : Char) : CharSpelling c (stringChar c) := by
  rw [stringChar.eq_def]
  split
  case h_8 no_quote no_escape _ _ _ _ _  =>
    split_ifs with control
    · exact .unit (unit_hexDigit c.toNat control)
    · exact .plain (not_lt.mp control) no_quote no_escape
  all_goals exact .short rfl

theorem tokenSpelling_stringText (s : String) : TokenSpelling (.string s) (stringText s).toList := by
  have each : List.Forall₂ CharSpelling s.toList (s.toList.map stringChar) :=
    List.forall₂_map_right_iff.mpr (List.forall₂_same.mpr fun c _ => charSpelling_stringChar c)
  rw [stringText, String.toList_ofList, List.flatMap_def]
  exact .string each

theorem tokenSpelling_toString (n : Nat) : TokenSpelling (.number n) (toString n).toList := by
  have no_zero : (Nat.toDigits 10 n).head? = some '0' → Nat.toDigits 10 n = ['0'] := by
    intro zero
    obtain rfl : n = 0 := by
      by_contra other
      exact head_toDigits_ne (Nat.pos_of_ne_zero other) zero
    rfl
  have spelled := TokenSpelling.number Nat.toDigits_ne_nil
    (fun c member => Nat.isDigit_of_mem_toDigits (by norm_num) (by norm_num) member) no_zero
  rw [Nat.ofDigitChars_ten_toDigits] at spelled
  rwa [Nat.toString_eq_ofList_toDigits, String.toList_ofList]

/-! ## Lines -/

/-- The characters are cut into the tokens, whatever comes after them that is no digit. -/
def Writes (cs : List Char) (group : List JsonToken) : Prop :=
  ∀ rest ts, Stops rest → Cut rest ts → Cut (cs ++ rest) (group ++ ts)

theorem writes_token {t : JsonToken} {cs : List Char} (spelled : TokenSpelling t cs) : Writes cs [t] :=
  fun _ _ stops cut => .token spelled (fun _ => stops) cut

theorem cut_indent (level : Nat) {rest : List Char} {ts : List JsonToken} (cut : Cut rest ts) :
    Cut ((indent level).toList ++ rest) ts := by
  rw [indent, String.toList_ofList]
  induction 2 * level with
  | zero => exact cut
  | succ n ih => exact .blank rfl ih

/-- Every line is cut into the tokens of its group. -/
def Lines (lines : List String) (groups : List (List JsonToken)) : Prop :=
  List.Forall₂ (fun line group => Writes line.toList group) lines groups

theorem Lines.writes {lines : List String} {groups : List (List JsonToken)} (each : Lines lines groups) :
    Writes (",\n".intercalate lines).toList ([.comma].intercalate groups) := by
  induction each with
  | nil => exact fun rest ts _ cut => cut
  | cons first others ih =>
      cases others with
      | nil => simpa using first
      | cons second others =>
          intro rest ts stops cut
          have more : Cut (',' :: '\n' :: _) (.comma :: _) := .mark rfl (.blank rfl (ih rest ts stops cut))
          have all := first _ _ (by simp [Stops]) more
          simpa [List.intercalate_cons_cons] using all

theorem Writes.indented {text : String} {group : List JsonToken} (writes : Writes text.toList group)
    (level : Nat) : Writes (indent level ++ text).toList group := by
  intro rest ts stops cut
  rw [String.toList_append, List.append_assoc]
  exact cut_indent level (writes rest ts stops cut)

variable {first last : Char} {t u : JsonToken}

theorem writes_marks (opens : JsonToken.ofMark? first = some t) (closes : JsonToken.ofMark? last = some u) :
    Writes [first, last] [t, u] :=
  fun _ _ _ cut => .mark opens (.mark closes cut)

/-- `Lines` between two marks, the second of which is on a line of its own. -/
theorem Lines.writes_block {lines : List String} {groups : List (List JsonToken)}
    (each : Lines lines groups) (opens : JsonToken.ofMark? first = some t)
    (closes : JsonToken.ofMark? last = some u) (level : Nat) :
    Writes (first :: '\n' :: (",\n".intercalate lines).toList ++ '\n' :: (indent level).toList ++ [last])
      (t :: [.comma].intercalate groups ++ [u]) := by
  intro rest ts _ cut
  have closed : Cut ('\n' :: ((indent level).toList ++ last :: rest)) (u :: ts) :=
    .blank rfl (cut_indent level (.mark closes cut))
  have inside := each.writes _ _ (by simp [Stops]) closed
  have all : Cut (first :: '\n' :: _) (t :: _) := .mark opens (.blank rfl inside)
  simpa using all

theorem writes_member (name : String) {text : String} {group : List JsonToken}
    (writes : Writes text.toList group) :
    Writes (stringText name ++ ": " ++ text).toList (.string name :: .colon :: group) := by
  intro rest ts stops cut
  have value : Cut (':' :: ' ' :: _) (.colon :: _) := .mark rfl (.blank rfl (writes rest ts stops cut))
  have all := writes_token (tokenSpelling_stringText name) _ _ (by simp [Stops]) value
  simpa using all

/-! ## Values -/

mutual

theorem writes_text (v : JsonValue) (level : Nat) : Writes (v.text level).toList v.tokens := by
  cases v with
  | string s => exact writes_token (tokenSpelling_stringText s)
  | number n => exact writes_token (tokenSpelling_toString n)
  | list elements =>
      have opens : JsonToken.ofMark? '[' = some .openList := rfl
      have closes : JsonToken.ofMark? ']' = some .closeList := rfl
      cases elements with
      | nil => simpa [JsonValue.text, tokens, elementTokens] using writes_marks opens closes
      | cons v vs =>
          have block := (lines_elements (v :: vs) (level + 1)).writes_block opens closes level
          simpa [JsonValue.text, tokens] using block
  | object members =>
      have opens : JsonToken.ofMark? '\x7b' = some .openObject := rfl
      have closes : JsonToken.ofMark? '\x7d' = some .closeObject := rfl
      cases members with
      | nil => simpa [JsonValue.text, tokens, memberTokens] using writes_marks opens closes
      | cons m ms =>
          have block := (lines_members (m :: ms) (level + 1)).writes_block opens closes level
          simpa [JsonValue.text, tokens] using block

theorem lines_elements (vs : List JsonValue) (level : Nat) :
    Lines (elementLines level vs) (elementTokens vs) := by
  cases vs with
  | nil => exact .nil
  | cons v vs => exact .cons ((writes_text v level).indented level) (lines_elements vs level)

theorem lines_members (ms : List (String × JsonValue)) (level : Nat) :
    Lines (memberLines level ms) (memberTokens ms) := by
  cases ms with
  | nil => exact .nil
  | cons m ms =>
      obtain ⟨name, v⟩ := m
      have line := (writes_member name (writes_text v level)).indented level
      rw [← String.append_assoc, ← String.append_assoc] at line
      exact .cons line (lines_members ms level)

end

end Json

/-- `JsonValue.document` is a `Document` of its value. -/
theorem JsonValue.document_document (v : JsonValue) : Document v.document v := by
  have all := Json.writes_text v 0 [] [] (by simp [Json.Stops]) .nil
  rwa [List.append_nil, List.append_nil] at all

end PatternSampler
