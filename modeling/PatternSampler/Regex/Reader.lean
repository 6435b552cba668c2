import PatternSampler.Regex
import PatternSampler.Text.Decimal

/-! # Reading regular expressions

```text
alternation := branch ('|' branch)*
branch      := (atom repetition*)*
atom        := '(' ('?:' | '?<' name '>' | '?P<' name '>')? alternation ')'
             | '[' set | '.' | '^' | '$' | escape | literal
repetition  := ('*' | '+' | '?' | '{' n (',' m?)? '}') '?'?
set         := '^'? '-'* ']'? item* ']'
item        := c '-' c | c | '[' set | '[:' '^'? name ':]' | '&&' | '--' | '~~'
```

A question mark after a repetition asks for few copies instead of many. That changes which text is
matched first, but not which texts are matched, so it is passed over. Classes that are named by an
escape, boundaries of words and flags are not known. Every reader answers what it read and what is left,
or nothing if the text is no regular expression; `fuel` bounds how deep the reading goes.
-/

namespace PatternSampler.Regex

/-! ## Characters -/

/-- Whether a backslash before the character stands for the character itself. -/
def isEscapable (c : Char) : Bool :=
  c.toNat < 0x80 && !c.isAlphanum && c != '<' && c != '>'

def hexDigit? (c : Char) : Option Nat :=
  if '0' ≤ c ∧ c ≤ '9' then some (c.toNat - '0'.toNat)
  else if 'a' ≤ c ∧ c ≤ 'f' then some (c.toNat - 'a'.toNat + 10)
  else if 'A' ≤ c ∧ c ≤ 'F' then some (c.toNat - 'A'.toNat + 10)
  else none

def ofHex? (digits : List Char) : Option Char := do
  if digits.isEmpty then none
  let n ← digits.foldlM (fun n c => (16 * n + ·) <$> hexDigit? c) 0
  if h : n.isValidChar then some (Char.ofNatAux n h) else none

/-- A code point in braces, or in just as many digits as are asked for. -/
def codePoint? (count : Nat) (cs : List Char) : Option (Char × List Char) :=
  match cs with
  | '{' :: cs =>
    match cs.dropWhile (· ≠ '}') with
    | _ :: rest => (·, rest) <$> ofHex? (cs.takeWhile (· ≠ '}'))
    | [] => none
  | cs =>
    if (cs.take count).length = count then (·, cs.drop count) <$> ofHex? (cs.take count) else none

/-- The character that an escape stands for, after its backslash. -/
def escape? (cs : List Char) : Option (Char × List Char) :=
  match cs with
  | 'a' :: cs => some ('\x07', cs)
  | 'f' :: cs => some ('\x0c', cs)
  | 't' :: cs => some ('\t', cs)
  | 'n' :: cs => some ('\n', cs)
  | 'r' :: cs => some ('\r', cs)
  | 'v' :: cs => some ('\x0b', cs)
  | 'x' :: cs => codePoint? 2 cs
  | 'u' :: cs => codePoint? 4 cs
  | 'U' :: cs => codePoint? 8 cs
  | c :: cs => if isEscapable c then some (c, cs) else none
  | [] => none

/-! ## Sets -/

def setChar? (cs : List Char) : Option (Char × List Char) :=
  match cs with
  | '\\' :: cs => escape? cs
  | c :: cs => some (c, cs)
  | [] => none

/-- A character or a range. A dash before the end of the set, or before another dash, makes no range. -/
def setItem? (cs : List Char) : Option (CharSet × List Char) := do
  let (lo, rest) ← setChar? cs
  match rest with
  | '-' :: ']' :: _ | '-' :: '-' :: _ => return (.single lo, rest)
  | '-' :: rest => do
    let (hi, rest) ← setChar? rest
    if lo ≤ hi then return (.range lo hi, rest) else none
  | rest => return (.single lo, rest)

/-- The set of the characters in some ranges. -/
def ofRanges (ranges : List (Char × Char)) : CharSet :=
  ranges.foldr (fun (lo, hi) s => .either (.range lo hi) s) .nothing

/-- The sets of ASCII characters that have names. -/
def namedSets : List (String × CharSet) :=
  [("alnum", ofRanges [('0', '9'), ('A', 'Z'), ('a', 'z')]),
   ("alpha", ofRanges [('A', 'Z'), ('a', 'z')]), ("ascii", ofRanges [('\x00', '\x7f')]),
   ("blank", ofRanges [('\t', '\t'), (' ', ' ')]),
   ("cntrl", ofRanges [('\x00', '\x1f'), ('\x7f', '\x7f')]), ("digit", ofRanges [('0', '9')]),
   ("graph", ofRanges [('!', '~')]), ("lower", ofRanges [('a', 'z')]),
   ("print", ofRanges [(' ', '~')]),
   ("punct", ofRanges [('!', '/'), (':', '@'), ('[', '\x60'), ('\x7b', '~')]),
   ("space", ofRanges [('\t', '\r'), (' ', ' ')]), ("upper", ofRanges [('A', 'Z')]),
   ("word", ofRanges [('0', '9'), ('A', 'Z'), ('_', '_'), ('a', 'z')]),
   ("xdigit", ofRanges [('0', '9'), ('A', 'F'), ('a', 'f')])]

def namedSet? (cs : List Char) : Option (CharSet × List Char) :=
  match cs with
  | ':' :: cs => do
    let (negated, cs) :=
      match cs with
      | '^' :: cs => (true, cs)
      | cs => (false, cs)
    match cs.dropWhile (· ≠ ':') with
    | ':' :: ']' :: rest => do
      let s ← namedSets.lookup (String.ofList (cs.takeWhile (· ≠ ':')))
      return (if negated then .complement s else s, rest)
    | _ => none
  | _ => none

mutual

/-- A set, after its opening bracket. Dashes at the start stand for themselves, and so does a closing
    bracket there. -/
def set? (fuel : Nat) (cs : List Char) : Option (CharSet × List Char) :=
  match fuel with
  | 0 => none
  | fuel + 1 => do
    let (negated, cs) :=
      match cs with
      | '^' :: cs => (true, cs)
      | cs => (false, cs)
    let (s, cs) ←
      match cs with
      | '-' :: cs => setItems? fuel id (.single '-') (cs.dropWhile (· = '-'))
      | ']' :: cs => setItems? fuel id (.single ']') cs
      | cs => setItems? fuel id .nothing cs
    return (if negated then .complement s else s, cs)

/-- The items up to the closing bracket, put to those that came `before`. `whole` makes the set of
    everything in the brackets from the items since the last operation. -/
def setItems? (fuel : Nat) (whole : CharSet → CharSet) (before : CharSet) (cs : List Char) :
    Option (CharSet × List Char) :=
  match fuel with
  | 0 => none
  | fuel + 1 =>
    match cs with
    | ']' :: cs => some (whole before, cs)
    | '&' :: '&' :: cs => setItems? fuel (CharSet.both (whole before)) .nothing cs
    | '-' :: '-' :: cs => setItems? fuel (CharSet.without (whole before)) .nothing cs
    | '~' :: '~' :: cs => setItems? fuel (CharSet.oneOf (whole before)) .nothing cs
    | '[' :: cs => do
      let (s, cs) ← namedSet? cs <|> set? fuel cs
      setItems? fuel whole (.either before s) cs
    | cs => do
      let (s, cs) ← setItem? cs
      setItems? fuel whole (.either before s) cs

end

/-! ## Repetitions -/

/-- A number of copies with blanks around it. -/
def number? (cs : List Char) : Option (Nat × List Char) := do
  let (digits, rest) := (cs.dropWhile Char.isWhitespace).span Text.isDigit
  let n ← Text.digits? digits
  if n < UInt32.size then return (n, rest.dropWhile Char.isWhitespace) else none

/-- The numbers of copies in braces, after the opening brace. -/
def bounds? (cs : List Char) : Option ((Nat × Option Nat) × List Char) := do
  let (min, rest) ← number? cs
  match rest with
  | '}' :: rest => return ((min, some min), rest)
  | ',' :: '}' :: rest => return ((min, none), rest)
  | ',' :: rest => do
    let (max, rest) ← number? rest
    match rest with
    | '}' :: rest => if min ≤ max then return ((min, some max), rest) else none
    | _ => none
  | _ => none

/-- What is left after a question mark, if there is one. -/
def skipQuestion : List Char → List Char
  | '?' :: cs => cs
  | cs => cs

/-- The repetitions of an expression, each of all before it. -/
def repetitions? (fuel : Nat) (r : Regex) (cs : List Char) : Option (Regex × List Char) :=
  match fuel with
  | 0 => none
  | fuel + 1 =>
    match cs with
    | '*' :: cs => repetitions? fuel (.repeated r 0 none) (skipQuestion cs)
    | '+' :: cs => repetitions? fuel (.repeated r 1 none) (skipQuestion cs)
    | '?' :: cs => repetitions? fuel (.repeated r 0 (some 1)) (skipQuestion cs)
    | '{' :: cs => do
      let ((min, max), cs) ← bounds? cs
      repetitions? fuel (.repeated r min max) (skipQuestion cs)
    | cs => some (r, cs)

/-! ## Groups, branches and alternations -/

def groupName? (cs : List Char) : Option (List Char) :=
  let isNameChar (c : Char) : Bool := c.isAlphanum || c = '_' || c = '.' || c = '[' || c = ']'
  match cs with
  | c :: _ =>
    if c.isAlpha || c = '_' then
      match cs.dropWhile isNameChar with
      | '>' :: rest => some rest
      | _ => none
    else none
  | [] => none

/-- What is left after the mark at the start of a group, if there is one. -/
def groupBody? (cs : List Char) : Option (List Char) :=
  match cs with
  | '?' :: ':' :: cs => some cs
  | '?' :: 'P' :: '<' :: cs | '?' :: '<' :: cs => groupName? cs
  | '?' :: _ => none
  | cs => some cs

/-- Every character but the line feed. -/
def wildcardSet : CharSet := .complement (.single '\n')

mutual

/-- Something that repetitions can follow. -/
def atom? (fuel : Nat) (cs : List Char) : Option (Regex × List Char) :=
  match fuel with
  | 0 => none
  | fuel + 1 =>
    match cs with
    | '(' :: cs => do
      let (r, cs) ← alternation? fuel (← groupBody? cs)
      match cs with
      | ')' :: cs => return (r, cs)
      | _ => none
    | '[' :: cs => do
      let (s, cs) ← set? (cs.length + 1) cs
      return (.one s, cs)
    | '.' :: cs => some (.one wildcardSet, cs)
    | '^' :: cs | '\\' :: 'A' :: cs => some (.textStart, cs)
    | '$' :: cs | '\\' :: 'z' :: cs => some (.textEnd, cs)
    | '\\' :: cs => do
      let (c, cs) ← escape? cs
      return (.one (.single c), cs)
    | '*' :: _ | '+' :: _ | '?' :: _ | '{' :: _ | [] => none
    | c :: cs => some (.one (.single c), cs)

def branch? (fuel : Nat) (cs : List Char) : Option (Regex × List Char) :=
  match fuel with
  | 0 => none
  | fuel + 1 =>
    match cs with
    | [] | '|' :: _ | ')' :: _ => some (.empty, cs)
    | cs => do
      let (r, cs) ← atom? fuel cs
      let (r, cs) ← repetitions? (cs.length + 1) r cs
      let (s, cs) ← branch? fuel cs
      return (.append r s, cs)

def alternation? (fuel : Nat) (cs : List Char) : Option (Regex × List Char) :=
  match fuel with
  | 0 => none
  | fuel + 1 => do
    let (r, cs) ← branch? fuel cs
    match cs with
    | '|' :: cs => do
      let (s, cs) ← alternation? fuel cs
      return (.either r s, cs)
    | cs => return (r, cs)

end

/-- The regular expression that a text is. Not more than three readers go into each other for every
    character. -/
def ofText? (text : String) : Option Regex :=
  match alternation? (3 * text.length + 3) text.toList with
  | some (r, []) => some r
  | _ => none

end PatternSampler.Regex
