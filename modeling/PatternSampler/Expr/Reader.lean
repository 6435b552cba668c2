import PatternSampler.Expr.Reading

/-! # Reading an expression tree from tokens

```text
pattern     := '^'? alternation '$'?
alternation := branch ('|' branch)*
branch      := quantified*
quantified  := atom quantifier?
atom        := '(' alternation ')' | '[' '^'? item+ ']' | '.' | escape | literal
quantifier  := '*' | '+' | '?' | '{' n (',' m?)? '}'
item        := token '-' token | token
```

There is one reader for each rule. They are put together from the general ones, and take what comes
first where there is a choice.
-/

namespace PatternSampler

namespace Reader

variable (atEnd : Span)

/-! ## Quantifiers -/

/-- The number that a run of digits stands for, most significant digit first. -/
def decimalValue (digits : List Token) : Nat :=
  digits.foldl (fun value t => 10 * value + t.digit?.getD 0) 0

def digit : Reader Token :=
  one atEnd (fun t => if t.digit?.isSome then some t else none) .notADigit

/-- A bound. All digits belong to it, and leading zeros are allowed. -/
def number : Reader Nat :=
  checked atEnd
    (fun digits =>
      let value := decimalValue digits
      if value ≤ Bounds.limit then .ok value
      else .error (.boundTooLarge (String.ofList (digits.flatMap Token.spelling))))
    (manyOne (digit atEnd))

/-- The bounds that a number stands for, with what comes after it: one alone is both bounds, and one
    with a comma behind it may stand without a maximum. -/
def boundsOf : Nat × Option (Option Nat) → Bounds
  | (min, none) => ⟨min, some min⟩
  | (min, some max) => ⟨min, max⟩

def braces : Reader Bounds :=
  map boundsOf <| between atEnd .openBrace .closeBrace <|
    (number atEnd).followedBy <| optional <| map (·.2) <|
      (exactly atEnd .comma).followedBy (optional (number atEnd))

def quantifier : Reader Bounds :=
  (((map (fun _ => ⟨0, none⟩) (exactly atEnd .star)).orElse
    (map (fun _ => ⟨1, none⟩) (exactly atEnd .plus))).orElse
    (map (fun _ => ⟨0, some 1⟩) (exactly atEnd .question))).orElse
    (braces atEnd)

/-! ## Sets -/

/-- A token inside of a set. All but the closing bracket stand for themselves there. -/
def setToken : Reader Token := satisfying atEnd (· ≠ .closeBracket)

/-- Two tokens with a dash between them. -/
def setRange : Reader SetItem :=
  spanned atEnd (fun ((first, _), last) span => .range first last span)
    (((setToken atEnd).followedBy (exactly atEnd .dash)).followedBy (setToken atEnd))

/-- An item of a set: a range where there is one, or else a single token. -/
def setItem : Reader SetItem := (setRange atEnd).orElse (map .single (setToken atEnd))

def set : Reader Expr :=
  spanned atEnd (fun (caret, items) span => .set caret.isSome items span) <|
    between atEnd .openBracket .closeBracket <|
      (optional (exactly atEnd .caret)).followedBy (manyOne (setItem atEnd))

/-! ## Elements, branches and alternations -/

def atom (alternation : Reader (List Branch)) : Reader Expr :=
  ((((spanned atEnd .group (between atEnd .openParen .closeParen alternation)).orElse
    (set atEnd)).orElse
    (spanned atEnd .token (exactly atEnd .period))).orElse
    (spanned atEnd .token (satisfying atEnd Token.isEscape))).orElse
    (spanned atEnd .token (satisfying atEnd Token.isPlain))

def elementOf : Expr × Option Bounds → Span → Expr
  | (atom, none), _ => atom
  | (atom, some bounds), span => .quantified atom bounds span

def element (alternation : Reader (List Branch)) : Reader Expr :=
  spanned atEnd elementOf ((atom atEnd alternation).followedBy (optional (quantifier atEnd)))

/-- Branches with bars between them, each of them as many elements as there are. -/
def alternation : Reader (List Branch) :=
  recursive fun alternation =>
    separatedBy (exactly atEnd .pipe) (many (element atEnd alternation))

def pattern : Reader Pattern :=
  spanned atEnd
    (fun (((caret, branches), dollar), _) span => ⟨caret.isSome, dollar.isSome, branches, span⟩) <|
    (((optional (exactly atEnd .caret)).followedBy (alternation atEnd)).followedBy
      (optional (exactly atEnd .dollar))).followedBy (finished)

end Reader

/-- Read a whole pattern. `atEnd` is the place that stands for the end of the tokens. -/
def Pattern.ofLexemes (atEnd : Span) (ts : List Lexeme) : Except Refusal Pattern :=
  match Reader.pattern atEnd ts with
  | .done p _ _ => .ok p
  | .refused s => .error s.refusal
  | .endless => .error ⟨.endless, atEnd⟩

end PatternSampler
