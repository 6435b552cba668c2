import Mathlib
import PatternSampler.Text.Json
import PatternSampler.Toml.Lexical

/-! # What is a JSON document

A text is cut into tokens, between which there can be blanks. It is the document of a value if these are
the tokens of the value. The grammar is that of JSON, but for the parts that `JsonValue` leaves out:
numbers have no sign, fraction or exponent, and there are no literal names.
-/

namespace PatternSampler

inductive JsonToken where
  | openList
  | closeList
  | openObject
  | closeObject
  | comma
  | colon
  | string (s : String)
  | number (n : Nat)
  deriving Repr, DecidableEq

namespace JsonToken

/-- The token that is a single character. -/
def ofMark? : Char → Option JsonToken
  | '[' => some openList
  | ']' => some closeList
  | '\x7b' => some openObject
  | '\x7d' => some closeObject
  | ',' => some comma
  | ':' => some colon
  | _ => none

def IsNumber : JsonToken → Prop
  | number _ => True
  | _ => False

end JsonToken

namespace Json

variable {t : JsonToken} {c : Char}

def isBlank (c : Char) : Bool := c = ' ' || c = '\n' || c = '\r' || c = '\t'

/-! ## Characters of strings -/

/-- The character that a letter stands for after a backslash. -/
def short? : Char → Option Char
  | '"' => some '"'
  | '\\' => some '\\'
  | '/' => some '/'
  | 'b' => some '\x08'
  | 'f' => some '\x0c'
  | 'n' => some '\n'
  | 'r' => some '\r'
  | 't' => some '\t'
  | _ => none

/-- The code unit that four digits stand for. -/
def unit? (digits : List Char) : Option Nat :=
  if digits.length = 4 then Toml.hexNumber? digits else none

/-- The code point of two surrogates. -/
def pair? (high low : Nat) : Option Nat :=
  if 0xd800 ≤ high ∧ high < 0xdc00 ∧ 0xdc00 ≤ low ∧ low < 0xe000 then
    some (0x10000 + (high - 0xd800) * 0x400 + (low - 0xdc00))
  else none

/-- The ways to write a character in a string. -/
inductive CharSpelling : Char → List Char → Prop where
  | plain {c : Char} (visible : ' ' ≤ c) (no_quote : c ≠ '"') (no_escape : c ≠ '\\') : CharSpelling c [c]
  | short {c e : Char} (known : short? e = some c) : CharSpelling c ['\\', e]
  | unit {c : Char} {digits : List Char} (code : unit? digits = some c.toNat) :
      CharSpelling c ('\\' :: 'u' :: digits)
  | pair {c : Char} {digits digits' : List Char} {high low : Nat} (first : unit? digits = some high)
      (second : unit? digits' = some low) (code : pair? high low = some c.toNat) :
      CharSpelling c ('\\' :: 'u' :: digits ++ '\\' :: 'u' :: digits')

/-! ## Tokens -/

theorem mark_ne (known : JsonToken.ofMark? c = some t) :
    c ≠ '"' ∧ c.isDigit = false ∧ isBlank c = false ∧ ¬t.IsNumber := by
  rw [JsonToken.ofMark?.eq_def] at known
  split at known <;> cases known <;> exact ⟨by decide, rfl, rfl, nofun⟩

/-- The ways to write a token. -/
inductive TokenSpelling : JsonToken → List Char → Prop where
  | mark {t : JsonToken} {c : Char} (known : JsonToken.ofMark? c = some t) : TokenSpelling t [c]
  | string {s : String} {spellings : List (List Char)}
      (each : List.Forall₂ CharSpelling s.toList spellings) :
      TokenSpelling (.string s) ('"' :: spellings.flatten ++ ['"'])
  | number {digits : List Char} (some_digit : digits ≠ []) (only : ∀ c ∈ digits, c.isDigit)
      (no_zero : digits.head? = some '0' → digits = ['0']) :
      TokenSpelling (.number (Nat.ofDigitChars 10 digits 0)) digits

/-- No number goes on here. -/
def Stops (cs : List Char) : Prop := ∀ c ∈ cs.head?, ¬c.isDigit

/-- The characters are a text of the tokens. -/
inductive Cut : List Char → List JsonToken → Prop where
  | nil : Cut [] []
  | blank {c : Char} {cs : List Char} {ts : List JsonToken} (blank : isBlank c) (others : Cut cs ts) :
      Cut (c :: cs) ts
  | token {t : JsonToken} {cs rest : List Char} {ts : List JsonToken} (spelled : TokenSpelling t cs)
      (whole : t.IsNumber → Stops rest) (others : Cut rest ts) : Cut (cs ++ rest) (t :: ts)

theorem Cut.mark {cs : List Char} {ts : List JsonToken} (known : JsonToken.ofMark? c = some t)
    (others : Cut cs ts) : Cut (c :: cs) (t :: ts) :=
  .token (.mark known) (fun number => absurd number (mark_ne known).2.2.2) others

end Json

/-! ## Values -/

namespace JsonValue

mutual

def tokens : JsonValue → List JsonToken
  | .string s => [.string s]
  | .number n => [.number n]
  | .list elements => .openList :: [.comma].intercalate (elementTokens elements) ++ [.closeList]
  | .object members => .openObject :: [.comma].intercalate (memberTokens members) ++ [.closeObject]

def elementTokens : List JsonValue → List (List JsonToken)
  | [] => []
  | v :: vs => v.tokens :: elementTokens vs

def memberTokens : List (String × JsonValue) → List (List JsonToken)
  | [] => []
  | (name, v) :: ms => (.string name :: .colon :: v.tokens) :: memberTokens ms

end

/-- The text is one of the value. -/
def Document (text : String) (v : JsonValue) : Prop := Json.Cut text.toList v.tokens

end JsonValue

end PatternSampler
