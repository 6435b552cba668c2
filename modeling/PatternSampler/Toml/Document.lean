import PatternSampler.Toml.Lexical

/-! # TOML documents

A document is read line by line. A line holds a key with its value, a header that opens a table, or
nothing but blanks and a comment. A text that is no document has no entries at all.
-/

namespace PatternSampler.Toml

/-! ## Values -/

mutual

/-- A value with at most `depth` arrays and inline tables inside each other. -/
def value? (depth : Nat) (cs : List Char) : Option (Node × List Char) :=
  match depth, cs with
  | 0, '[' :: _ | 0, '{' :: _ => none
  | depth + 1, '[' :: cs => do
    let (elements, cs) ← elements? depth (cs.length + 1) (skipSpace cs.length cs)
    return (.array elements, cs)
  | depth + 1, '{' :: cs =>
    match skipBlanks cs with
    | '}' :: cs => some (.inlineTable [], cs)
    | cs => do
      let (entries, cs) ← inlineEntries? depth (cs.length + 1) [] cs
      return (.inlineTable entries, cs)
  | _, cs =>
    match cs.head? with
    | some '"' | some '\'' => do
      let (text, cs) ← string? cs
      return (.scalar (.string text), cs)
    | _ => do
      let (s, cs) ← dateTime? cs <|> word? cs
      return (.scalar s, cs)
termination_by (depth, 0)

/-- At most `count` elements of an array up to its closing bracket. A comma may follow the last one. -/
def elements? (depth count : Nat) (cs : List Char) : Option (List Node × List Char) :=
  match count, cs with
  | 0, _ => none
  | _, ']' :: cs => some ([], cs)
  | count + 1, cs => do
    let (v, cs) ← value? depth cs
    match skipSpace cs.length cs with
    | ',' :: cs =>
      let (vs, cs) ← elements? depth count (skipSpace cs.length cs)
      return (v :: vs, cs)
    | ']' :: cs => return ([v], cs)
    | _ => none
termination_by (depth, count)

/-- At most `count` entries of an inline table up to its closing brace, put to those that are there
    already. -/
def inlineEntries? (depth count : Nat) (es : Entries) (cs : List Char) :
    Option (Entries × List Char) :=
  match count with
  | 0 => none
  | count + 1 => do
    let (key, cs) ← key? cs
    match cs with
    | '=' :: cs =>
      let (v, cs) ← value? depth (skipBlanks cs)
      let es ← es.setDotted v key
      match skipBlanks cs with
      | ',' :: cs => inlineEntries? depth count es (skipBlanks cs)
      | '}' :: cs => return (es, cs)
      | _ => none
    | _ => none
termination_by (depth, count)

end

/-! ## Lines -/

/-- What has been read of a document: its entries, and the path of the table that is open. -/
structure Document where
  entries : Entries
  current : List String

/-- Make the table or the element of an array of tables that a header names. -/
def Document.openHeader (d : Document) (isElement : Bool) (path : List String) : Option Document := do
  let name ← path.getLast?
  let make := if isElement then Entries.openElement name else Entries.openTable name
  return ⟨← d.entries.alterTable make path.dropLast, path⟩

def line? (d : Document) (cs : List Char) : Option (Document × List Char) :=
  match cs with
  | '[' :: '[' :: cs => do
    let (path, cs) ← key? (skipBlanks cs)
    match cs with
    | ']' :: ']' :: cs => return (← d.openHeader true path, ← restOfLine? cs)
    | _ => none
  | '[' :: cs => do
    let (path, cs) ← key? (skipBlanks cs)
    match cs with
    | ']' :: cs => return (← d.openHeader false path, ← restOfLine? cs)
    | _ => none
  | cs => do
    let (key, cs) ← key? cs
    match cs with
    | '=' :: cs =>
      let (v, cs) ← value? nestingLimit (skipBlanks cs)
      let entries ← d.entries.alterTable (Entries.setDotted v key) d.current
      return ({ d with entries }, ← restOfLine? cs)
    | _ => none

/-- Read lines up to the end. Every line has at least one character, so their number is bounded. -/
def lines? (fuel : Nat) (d : Document) (cs : List Char) : Option Document :=
  match skipSpace cs.length cs with
  | [] => some d
  | cs =>
    match fuel with
    | 0 => none
    | fuel + 1 => do
      let (d, cs) ← line? d cs
      lines? fuel d cs

/-- The entries of a document. A byte order mark may come first. -/
def entries? (text : String) : Option Entries :=
  let cs :=
    match text.toList with
    | '\ufeff' :: cs => cs
    | cs => cs
  (·.entries) <$> lines? cs.length ⟨[], []⟩ cs

/-- The keys and values at the top of a document that came from `origin`. -/
def topSettings? (origin : Option String) (text : String) : Option (List (String × SettingValue)) :=
  entrySettings origin <$> entries? text

end PatternSampler.Toml
