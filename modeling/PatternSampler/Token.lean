import PatternSampler.Span

/-! # Tokens of the pattern dialect

Every character of a pattern becomes one token. Each of the fifteen metacharacters has a token of its
own, an escape is a backslash with the character after it, and every other character is plain.
-/

namespace PatternSampler

inductive Token where
  /-- Anchor at the start of a pattern, negation mark of a set. -/
  | caret
  | dollar
  | period
  /-- Between the branches of an alternation. -/
  | pipe
  | openParen
  | closeParen
  | openBracket
  | closeBracket
  | openBrace
  | closeBrace
  /-- Between the boundaries of a range in a set. -/
  | dash
  /-- Between the bounds of a quantifier. -/
  | comma
  | star
  | plus
  | question
  | escape (c : Char)
  /-- Any character that is neither a metacharacter nor a backslash. -/
  | char (c : Char)
  deriving Repr, DecidableEq, Inhabited

namespace Token

/-- The token that a character stands for when no backslash comes before it. -/
def ofChar : Char → Token
  | '^' => caret
  | '$' => dollar
  | '.' => period
  | '|' => pipe
  | '(' => openParen
  | ')' => closeParen
  | '[' => openBracket
  | ']' => closeBracket
  | '{' => openBrace
  | '}' => closeBrace
  | '-' => dash
  | ',' => comma
  | '*' => star
  | '+' => plus
  | '?' => question
  | c => char c

def kindName : Token → String
  | caret => "Caret"
  | dollar => "Dollar"
  | period => "Period"
  | pipe => "Pipe"
  | openParen => "OpenParen"
  | closeParen => "CloseParen"
  | openBracket => "OpenBracket"
  | closeBracket => "CloseBracket"
  | openBrace => "OpenBrace"
  | closeBrace => "CloseBrace"
  | dash => "Dash"
  | comma => "Comma"
  | star => "Star"
  | plus => "Plus"
  | question => "Question"
  | escape _ => "Escape"
  | char _ => "Char"

/-- The one character that the token stands for when it is taken literally. An escape has none:
    `\d` is not the character `d`. -/
def literal? : Token → Option Char
  | caret => some '^'
  | dollar => some '$'
  | period => some '.'
  | pipe => some '|'
  | openParen => some '('
  | closeParen => some ')'
  | openBracket => some '['
  | closeBracket => some ']'
  | openBrace => some '{'
  | closeBrace => some '}'
  | dash => some '-'
  | comma => some ','
  | star => some '*'
  | plus => some '+'
  | question => some '?'
  | escape _ => none
  | char c => some c

/-- The characters that the token is written with. -/
def spelling (t : Token) : List Char :=
  match t with
  | escape c => ['\\', c]
  | t => t.literal?.toList

def text (t : Token) : String := String.ofList t.spelling

def isWildcard : Token → Bool
  | period => true
  | _ => false

def isEscape : Token → Bool
  | escape _ => true
  | _ => false

/-- Whether the token stands for itself outside of a set. -/
def isPlain : Token → Bool
  | char _ | dash | comma | closeBracket | closeBrace => true
  | _ => false

/-- The value of a decimal digit. Only the ten ASCII digits count, and only as plain characters. -/
def digit? : Token → Option Nat
  | char c => if '0' ≤ c ∧ c ≤ '9' then some (c.toNat - '0'.toNat) else none
  | _ => none

end Token

/-- A token with the place where it stands. -/
structure Lexeme where
  token : Token
  span : Span
  deriving Repr, DecidableEq, Inhabited

end PatternSampler
