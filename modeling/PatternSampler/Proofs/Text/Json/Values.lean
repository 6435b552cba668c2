import Mathlib
import PatternSampler.Proofs.Lists
import PatternSampler.Proofs.Text.Json.Tokens

/-! # Reading the value of a document

The tokens of a value are read from left to right, with the lists and objects that are still open around
the place where the reader is. A text has no other value than the one that is read.
-/

namespace PatternSampler

namespace Json

/-- A list or an object that is still open, with what it holds so far. The value for the last name of an
    object is still to come. -/
inductive Frame where
  | list (done : List JsonValue)
  | object (done : List (String × JsonValue)) (name : String)

mutual

/-- The value of a document, from where a value comes next. -/
def value? : List Frame → List JsonToken → Option JsonValue
  | frames, .string s :: ts => resume? frames (.string s) ts
  | frames, .number n :: ts => resume? frames (.number n) ts
  | frames, .openList :: .closeList :: ts => resume? frames (.list []) ts
  | frames, .openList :: ts => value? (.list [] :: frames) ts
  | frames, .openObject :: .closeObject :: ts => resume? frames (.object []) ts
  | frames, .openObject :: .string name :: .colon :: ts => value? (.object [] name :: frames) ts
  | _, _ => none

/-- The value of a document, from where a value is done. -/
def resume? : List Frame → JsonValue → List JsonToken → Option JsonValue
  | [], v, [] => some v
  | .list done :: frames, v, .comma :: ts => value? (.list (done ++ [v]) :: frames) ts
  | .list done :: frames, v, .closeList :: ts => resume? frames (.list (done ++ [v])) ts
  | .object done name :: frames, v, .comma :: .string next :: .colon :: ts =>
    value? (.object (done ++ [(name, v)]) next :: frames) ts
  | .object done name :: frames, v, .closeObject :: ts =>
    resume? frames (.object (done ++ [(name, v)])) ts
  | _, _, _ => none

end

open JsonValue

variable {frames : List Frame} {ts : List JsonToken} {v w : JsonValue}

/-! ## What is read -/

theorem exists_tokens (v : JsonValue) : ∃ t ts, v.tokens = t :: ts ∧ t ≠ .closeList := by
  cases v with
  | string | number | list | object => exact ⟨_, _, rfl, nofun⟩

theorem value_openList : value? frames (.openList :: (v.tokens ++ ts)) =
    value? (.list [] :: frames) (v.tokens ++ ts) := by
  obtain ⟨t, others, same, other⟩ := exists_tokens v
  rw [same, List.cons_append, value?]
  simpa using other

mutual

/-- On the tokens of a value, `value?` comes to `resume?` with it. -/
theorem value_of_tokens (v : JsonValue) (frames : List Frame) (ts : List JsonToken) :
    value? frames (v.tokens ++ ts) = resume? frames v ts := by
  cases v with
  | string s => rfl
  | number n => rfl
  | list elements =>
      cases elements with
      | nil => rfl
      | cons v vs =>
          have others := resume_of_elements v vs [] frames ts
          simpa [tokens, elementTokens, intercalate_cons, value_openList, value_of_tokens v] using others
  | object members =>
      cases members with
      | nil => rfl
      | cons m ms =>
          obtain ⟨name, v⟩ := m
          have others := resume_of_members name v ms [] frames ts
          simpa [tokens, memberTokens, intercalate_cons, value?, value_of_tokens v] using others

theorem resume_of_elements (v : JsonValue) (vs done : List JsonValue) (frames : List Frame)
    (ts : List JsonToken) :
    resume? (.list done :: frames) v
        ((elementTokens vs).flatMap (.comma :: ·) ++ .closeList :: ts) =
      resume? frames (.list (done ++ v :: vs)) ts := by
  cases vs with
  | nil => rfl
  | cons v' vs =>
      have others := resume_of_elements v' vs (done ++ [v]) frames ts
      simpa [elementTokens, resume?, value_of_tokens v'] using others

theorem resume_of_members (name : String) (v : JsonValue) (ms done : List (String × JsonValue))
    (frames : List Frame) (ts : List JsonToken) :
    resume? (.object done name :: frames) v
        ((memberTokens ms).flatMap (.comma :: ·) ++ .closeObject :: ts) =
      resume? frames (.object (done ++ (name, v) :: ms)) ts := by
  cases ms with
  | nil => rfl
  | cons m ms =>
      obtain ⟨name', v'⟩ := m
      have others := resume_of_members name' v' ms (done ++ [(name, v)]) frames ts
      simpa [memberTokens, resume?, value_of_tokens v'] using others

end

/-! ## What was read -/

theorem elementTokens_append (vs vs' : List JsonValue) :
    elementTokens (vs ++ vs') = elementTokens vs ++ elementTokens vs' := by
  induction vs with
  | nil => rfl
  | cons v vs ih => simp [elementTokens, ih]

theorem memberTokens_append (ms ms' : List (String × JsonValue)) :
    memberTokens (ms ++ ms') = memberTokens ms ++ memberTokens ms' := by
  induction ms with
  | nil => rfl
  | cons m ms ih => simp [memberTokens, ih]

/-- The tokens before a value that stands in these frames. -/
def opened : List Frame → List JsonToken
  | [] => []
  | .list done :: frames => opened frames ++ .openList :: (elementTokens done).flatMap (· ++ [.comma])
  | .object done name :: frames =>
    opened frames ++ .openObject :: (memberTokens done).flatMap (· ++ [.comma]) ++ [.string name, .colon]

/-- `value?` and `resume?` keep all tokens: those `opened` and those left are the tokens of the answer. -/
theorem tokens_of_reads :
    (∀ frames ts w, value? frames ts = some w → opened frames ++ ts = w.tokens) ∧
      ∀ frames v ts w, resume? frames v ts = some w → opened frames ++ (v.tokens ++ ts) = w.tokens := by
  apply value?.mutual_induct
  -- A value is done at once, an empty list or object among them.
  case case1 | case2 | case3 | case5 =>
    intros
    rename_i ih w read
    rw [← ih w read]
    simp [tokens, elementTokens, memberTokens]
  -- A list or an object is opened.
  case case4 =>
    intro frames ts no_end ih w read
    rw [value?] at read
    · rw [← ih w read]
      simp [opened, elementTokens]
    · exact no_end
  case case6 =>
    intro frames name ts ih w read
    rw [← ih w read]
    simp [opened, memberTokens]
  -- A value is done, and what is around it ends or goes on.
  case case8 =>
    rintro v w ⟨⟩
    simp [opened]
  case case9 | case11 =>
    intros
    rename_i ih w read
    rw [← ih w read]
    simp [opened, elementTokens_append, memberTokens_append, elementTokens, memberTokens]
  case case10 | case12 =>
    intros
    rename_i ih w read
    rw [← ih w read]
    simp [opened, tokens, elementTokens_append, memberTokens_append, elementTokens, memberTokens,
      intercalate_concat]
  -- Nothing can be read here.
  case case7 | case13 =>
    intros
    rename_i read
    simp_all [value?, resume?]

end Json

namespace JsonValue

/-- The value of a document. -/
def ofText? (text : String) : Option JsonValue := Json.cut? text.toList >>= Json.value? []

/-- `ofText?` answers the value of which the text is a `Document`. -/
theorem ofText?_eq_some_iff {text : String} {v : JsonValue} : ofText? text = some v ↔ Document text v := by
  rw [ofText?, Option.bind_eq_bind, Option.bind_eq_some_iff]
  constructor
  · rintro ⟨ts, cut, read⟩
    have same : ts = v.tokens := Json.tokens_of_reads.1 [] ts v read
    rw [Document, ← same]
    exact Json.cut?_eq_some_iff.mp cut
  · intro document
    have read := Json.value_of_tokens v [] []
    rw [List.append_nil] at read
    exact ⟨v.tokens, Json.cut?_eq_some_iff.mpr document, read⟩

end JsonValue

end PatternSampler
