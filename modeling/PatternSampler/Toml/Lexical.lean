import PatternSampler.Toml.Node

/-! # The smallest pieces of a TOML document

Each reader takes the characters that are left and answers what it read and what is left then, or
nothing when the text is not as it has to be.
-/

namespace PatternSampler.Toml

abbrev Reader (α : Type) := List Char → Option (α × List Char)

/-! ## Blanks, comments and ends of lines -/

def isBlank (c : Char) : Bool := c = ' ' || c = '\t'

def skipBlanks (cs : List Char) : List Char := cs.dropWhile isBlank

/-- Whether a character may stand in a comment: no control but the tab. -/
def isCommentChar (c : Char) : Bool := c = '\t' || (' ' ≤ c && c ≠ '\x7f')

/-- What is left after a line feed, which a carriage return may come before. -/
def lineEnd? : List Char → Option (List Char)
  | '\n' :: cs => some cs
  | '\r' :: '\n' :: cs => some cs
  | _ => none

/-- What is left after a comment, if there is one. -/
def skipComment : List Char → List Char
  | '#' :: cs => cs.dropWhile isCommentChar
  | cs => cs

/-- What is left of a line after its content: blanks, a comment and the end. -/
def restOfLine? (cs : List Char) : Option (List Char) :=
  match skipComment (skipBlanks cs) with
  | [] => some []
  | cs => lineEnd? cs

def skipSpace (fuel : Nat) (cs : List Char) : List Char :=
  match fuel with
  | 0 => cs
  | fuel + 1 =>
    let cs := skipComment (skipBlanks cs)
    match lineEnd? cs with
    | some cs => skipSpace fuel cs
    | none => cs

/-! ## Strings -/

def scalarChar? (n : Nat) : Option Char :=
  if h : n.isValidChar then some (Char.ofNatAux n h) else none

def hexValue? (c : Char) : Option Nat :=
  if '0' ≤ c ∧ c ≤ '9' then some (c.toNat - '0'.toNat)
  else if 'a' ≤ c ∧ c ≤ 'f' then some (c.toNat - 'a'.toNat + 10)
  else if 'A' ≤ c ∧ c ≤ 'F' then some (c.toNat - 'A'.toNat + 10)
  else none

def hexNumber? (cs : List Char) : Option Nat :=
  cs.foldlM (fun value c => (16 * value + ·) <$> hexValue? c) 0

/-- A character given by its code point in `count` hexadecimal digits. -/
def codePoint? (count : Nat) : Reader Char := fun cs => do
  if (cs.take count).length < count then none
  let c ← scalarChar? (← hexNumber? (cs.take count))
  return (c, cs.drop count)

def escape? : Reader Char
  | 'b' :: cs => some ('\x08', cs)
  | 't' :: cs => some ('\t', cs)
  | 'n' :: cs => some ('\n', cs)
  | 'f' :: cs => some ('\x0c', cs)
  | 'r' :: cs => some ('\r', cs)
  | '"' :: cs => some ('"', cs)
  | '\\' :: cs => some ('\\', cs)
  | 'u' :: cs => codePoint? 4 cs
  | 'U' :: cs => codePoint? 8 cs
  | _ => none

def basicString? (fuel : Nat) (cs : List Char) : Option (List Char × List Char) :=
  match fuel, cs with
  | 0, _ => none
  | _, [] => none
  | _, '"' :: cs => some ([], cs)
  | fuel + 1, '\\' :: cs => do
    let (c, cs) ← escape? cs
    let (text, cs) ← basicString? fuel cs
    return (c :: text, cs)
  | fuel + 1, c :: cs =>
    if isCommentChar c then do
      let (text, cs) ← basicString? fuel cs
      return (c :: text, cs)
    else none

def literalString? : Reader (List Char)
  | [] => none
  | c :: cs =>
    if c = '\'' then some ([], cs)
    else if isCommentChar c then do
      let (text, cs) ← literalString? cs
      return (c :: text, cs)
    else none

/-- Whether the text is over at quotes, and the quotes that still belong to it. Three quotes end a
    text of several lines, and up to two more before them are its own. -/
def closing? (quote : Char) (cs : List Char) : Option (List Char × List Char) :=
  let quotes := (cs.takeWhile (· = quote)).length
  if quotes < 3 then none
  else
    let own := min (quotes - 3) 2
    some (List.replicate own quote, cs.drop (own + 3))

def skipWhite : List Char → List Char
  | '\n' :: cs => skipWhite cs
  | '\r' :: '\n' :: cs => skipWhite cs
  | c :: cs => if isBlank c then skipWhite cs else c :: cs
  | [] => []

/-- Skip a line end that a backslash hides, with all blanks and line ends after it. -/
def hiddenLineEnd? (cs : List Char) : Option (List Char) :=
  skipWhite <$> lineEnd? (skipBlanks cs)

/-- The rest of a text of several lines. Only in the one with double quotes do escapes count. -/
def longString? (quote : Char) (fuel : Nat) (cs : List Char) : Option (List Char × List Char) :=
  match fuel with
  | 0 => none
  | fuel + 1 =>
    match closing? quote cs with
    | some done => some done
    | none =>
      match lineEnd? cs with
      | some cs => do
        let (text, cs) ← longString? quote fuel cs
        return ('\n' :: text, cs)
      | none =>
        match cs with
        | [] => none
        | c :: cs =>
          if c = '\\' ∧ quote = '"' then
            match hiddenLineEnd? cs with
            | some cs => longString? quote fuel cs
            | none => do
              let (c, cs) ← escape? cs
              let (text, cs) ← longString? quote fuel cs
              return (c :: text, cs)
          else if isCommentChar c then do
            let (text, cs) ← longString? quote fuel cs
            return (c :: text, cs)
          else none

def longStart (cs : List Char) : List Char := (lineEnd? cs).getD cs

def string? (cs : List Char) : Option (String × List Char) := do
  let (text, rest) ←
    match cs with
    | '"' :: '"' :: '"' :: cs => longString? '"' (cs.length + 1) (longStart cs)
    | '\'' :: '\'' :: '\'' :: cs => longString? '\'' (cs.length + 1) (longStart cs)
    | '"' :: cs => basicString? (cs.length + 1) cs
    | '\'' :: cs => literalString? cs
    | _ => none
  return (String.ofList text, rest)

/-! ## Keys -/

def isBareKeyChar (c : Char) : Bool := c.isAlphanum || c = '_' || c = '-'

/-- One part of a key: bare, or a string on one line. -/
def simpleKey? (cs : List Char) : Option (String × List Char) :=
  match cs with
  | '"' :: rest => (fun (text, rest) => (String.ofList text, rest)) <$>
      basicString? (rest.length + 1) rest
  | '\'' :: rest => (fun (text, rest) => (String.ofList text, rest)) <$> literalString? rest
  | cs =>
    let (bare, rest) := cs.span isBareKeyChar
    if bare.isEmpty then none else some (String.ofList bare, rest)

/-- A key of at most `parts` parts, with points between them and blanks around the points. -/
def dottedKey? (parts : Nat) (cs : List Char) : Option (List String × List Char) :=
  match parts with
  | 0 => none
  | parts + 1 => do
    let (part, rest) ← simpleKey? cs
    match skipBlanks rest with
    | '.' :: rest =>
      let (more, rest) ← dottedKey? parts (skipBlanks rest)
      return (part :: more, rest)
    | rest => return ([part], rest)

/-- How many parts a key may have, and how many arrays and inline tables may be around a value. -/
def nestingLimit : Nat := 79

def key? : Reader (List String) := dottedKey? nestingLimit

/-! ## Numbers -/

/-- Digits of some kind with single underscores between them; the underscores are left out. -/
def digitGroups? (isDigit : Char → Bool) : List Char → Option (List Char)
  | [] => none
  | [c] => if isDigit c then some [c] else none
  | c :: '_' :: cs => if isDigit c then (c :: ·) <$> digitGroups? isDigit cs else none
  | c :: cs => if isDigit c then (c :: ·) <$> digitGroups? isDigit cs else none

def wholeDigits? (cs : List Char) : Option (List Char) :=
  match cs with
  | '0' :: _ :: _ => none
  | cs => digitGroups? Text.isDigit cs

/-- Whether a minus sign comes first, and what is left after a sign. -/
def splitSign : List Char → Bool × List Char
  | '-' :: cs => (true, cs)
  | '+' :: cs => (false, cs)
  | cs => (false, cs)

def largestInteger : Nat := UInt64.size / 2 - 1

/-- A whole number in another base, after the mark of the base. -/
def basedInteger? (base : Nat) (cs : List Char) : Option Scalar := do
  let isDigit (c : Char) : Bool := (hexValue? c).any (· < base)
  let digits ← digitGroups? isDigit cs
  let n := digits.foldl (fun value c => base * value + (hexValue? c).getD 0) 0
  if n ≤ largestInteger then some (.integer n) else none

def integer? (cs : List Char) : Option Scalar :=
  match cs with
  | '0' :: 'x' :: cs => basedInteger? 16 cs
  | '0' :: 'o' :: cs => basedInteger? 8 cs
  | '0' :: 'b' :: cs => basedInteger? 2 cs
  | cs => do
    let (negative, cs) := splitSign cs
    let n := Text.digitsValue (← wholeDigits? cs)
    if negative then
      if n ≤ largestInteger + 1 then some (.integer (-n)) else none
    else if n ≤ largestInteger then some (.integer n) else none

/-- The exponent of a number with a fraction, with its mark. -/
def exponentText? : List Char → Option (List Char)
  | [] => some []
  | mark :: cs =>
    if mark = 'e' ∨ mark = 'E' then do
      let (negative, cs) := splitSign cs
      let digits ← digitGroups? Text.isDigit cs
      return 'e' :: (if negative then ['-'] else []) ++ digits
    else none

/-- A number with a fraction or an exponent, or one of the words for what is not finite. -/
def float? (cs : List Char) : Option Scalar := do
  let (negative, cs) := splitSign cs
  if cs = "inf".toList then return .float (.infinite negative)
  if cs = "nan".toList then return .float .nan
  let isWholeChar (c : Char) : Bool := Text.isDigit c || c = '_'
  let (whole, rest) := cs.span isWholeChar
  let whole ← wholeDigits? whole
  let (part, rest) ←
    match rest with
    | '.' :: rest => do
      let (part, rest) := rest.span isWholeChar
      pure ('.' :: (← digitGroups? Text.isDigit part), rest)
    | rest => if rest.isEmpty then none else pure ([], rest)
  let exponent ← exponentText? rest
  let x ← Text.Binary64.ofText?
    (String.ofList ((if negative then ['-'] else []) ++ whole ++ part ++ exponent))
  if x = .infinite false then none
  return .float x

/-! ## Dates and times -/

/-- A number of exactly `count` digits at the start. -/
def fixedNumber? (count : Nat) : Reader Nat := fun cs =>
  match cs.take count with
  | digits =>
    if digits.length = count ∧ digits.all Text.isDigit then
      some (Text.digitsValue digits, cs.drop count)
    else none

def expect? (c : Char) : List Char → Option (List Char)
  | d :: cs => if c = d then some cs else none
  | [] => none

def daysIn (year month : Nat) : Nat :=
  if month = 2 then
    if year % 4 = 0 ∧ (year % 100 ≠ 0 ∨ year % 400 = 0) then 29 else 28
  else if month = 4 ∨ month = 6 ∨ month = 9 ∨ month = 11 then 30
  else 31

/-- A number with zeros in front of it up to `width` digits. -/
def padZeros (width n : Nat) : String :=
  let digits := Nat.toDigits 10 n
  String.ofList (List.replicate (width - digits.length) '0' ++ digits)

def date? : Reader String := fun cs => do
  let (year, cs) ← fixedNumber? 4 cs
  let (month, cs) ← fixedNumber? 2 (← expect? '-' cs)
  let (day, cs) ← fixedNumber? 2 (← expect? '-' cs)
  if 1 ≤ month ∧ month ≤ 12 ∧ 1 ≤ day ∧ day ≤ daysIn year month then
    return (padZeros 4 year ++ "-" ++ padZeros 2 month ++ "-" ++ padZeros 2 day, cs)
  else none

/-- The fraction of a second: at most nine digits count, and zeros at the end are left out. -/
def secondFraction? : Reader String
  | '.' :: cs =>
    let (digits, rest) := cs.span Text.isDigit
    if digits.isEmpty then none
    else
      let kept := ((digits.take 9).reverse.dropWhile (· = '0')).reverse
      some (if kept.isEmpty then "" else "." ++ String.ofList kept, rest)
  | cs => some ("", cs)

def time? : Reader String := fun cs => do
  let (hour, cs) ← fixedNumber? 2 cs
  let (minute, cs) ← fixedNumber? 2 (← expect? ':' cs)
  let (second, cs) ← fixedNumber? 2 (← expect? ':' cs)
  if hour ≤ 23 ∧ minute ≤ 59 ∧ second ≤ 60 then
    let (fraction, cs) ← secondFraction? cs
    return (padZeros 2 hour ++ ":" ++ padZeros 2 minute ++ ":" ++ padZeros 2 second ++ fraction, cs)
  else none

/-- The distance of a time from the one at longitude zero; it may be left out. No distance has no
    minus sign. -/
def zone? : Reader String := fun cs =>
  match cs with
  | 'Z' :: cs | 'z' :: cs => some ("Z", cs)
  | sign :: rest =>
    if sign = '+' ∨ sign = '-' then do
      let (hour, rest) ← fixedNumber? 2 rest
      let (minute, rest) ← fixedNumber? 2 (← expect? ':' rest)
      if hour ≤ 23 ∧ minute ≤ 59 then
        let sign := if hour = 0 ∧ minute = 0 then '+' else sign
        return (sign.toString ++ padZeros 2 hour ++ ":" ++ padZeros 2 minute, rest)
      else none
    else some ("", cs)
  | [] => some ("", [])

/-- A date, a time, or both. It is kept as text in its usual form. -/
def dateTime? : Reader Scalar := fun cs =>
  match date? cs with
  | some (date, rest) =>
    let withTime : Option (Scalar × List Char) := do
      match rest with
      | mark :: rest =>
        if mark = 'T' ∨ mark = 't' ∨ mark = ' ' then
          let (time, rest) ← time? rest
          let (zone, rest) ← zone? rest
          return (.string (date ++ "T" ++ time ++ zone), rest)
        else none
      | [] => none
    some (withTime.getD (.string date, rest))
  | none => (fun (time, rest) => (.string time, rest)) <$> time? cs

/-! ## Words -/

/-- Whether a character can belong to a number or a word. -/
def isWordChar (c : Char) : Bool := c.isAlphanum || c = '_' || c = '+' || c = '-' || c = '.'

def word? : Reader Scalar := fun cs =>
  let (word, rest) := cs.span isWordChar
  let value :=
    if word = "true".toList then some (.bool true)
    else if word = "false".toList then some (.bool false)
    else integer? word <|> float? word
  value.map (·, rest)

end PatternSampler.Toml
