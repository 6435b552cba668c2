/-! # JSON documents

A document is laid out with one member or element on each line, indented by two blanks for every level.
Empty lists and objects stay on their line. In strings only quotes, backslashes and controls below the
blank are escaped.
-/

namespace PatternSampler

/-- The part of JSON that documents are made of. -/
inductive JsonValue where
  | string (s : String)
  | number (n : Nat)
  | list (elements : List JsonValue)
  | object (members : List (String × JsonValue))
  deriving Repr

namespace JsonValue

def hexDigit (n : Nat) : Char := Nat.digitChar (n % 16)

def stringChar (c : Char) : List Char :=
  match c with
  | '"' => ['\\', '"']
  | '\\' => ['\\', '\\']
  | '\x08' => ['\\', 'b']
  | '\x0c' => ['\\', 'f']
  | '\n' => ['\\', 'n']
  | '\r' => ['\\', 'r']
  | '\t' => ['\\', 't']
  | c =>
    if c < ' ' then ['\\', 'u', '0', '0', hexDigit (c.toNat / 16), hexDigit c.toNat]
    else [c]

def stringText (s : String) : String :=
  String.ofList ('"' :: s.toList.flatMap stringChar ++ ['"'])

/-- The blanks before a line at some level. -/
def indent (level : Nat) : String := String.ofList (List.replicate (2 * level) ' ')

mutual

/-- The text of a value that stands at some level. Lines after the first are indented for it. -/
def text (level : Nat) : JsonValue → String
  | .string s => stringText s
  | .number n => toString n
  | .list [] => "[]"
  | .list elements =>
    "[\n" ++ ",\n".intercalate (elementLines (level + 1) elements) ++ "\n" ++ indent level ++ "]"
  | .object [] => "\x7b\x7d"
  | .object members =>
    "\x7b\n" ++ ",\n".intercalate (memberLines (level + 1) members) ++ "\n" ++ indent level ++ "\x7d"

def elementLines (level : Nat) : List JsonValue → List String
  | [] => []
  | v :: vs => (indent level ++ text level v) :: elementLines level vs

def memberLines (level : Nat) : List (String × JsonValue) → List String
  | [] => []
  | (name, v) :: ms => (indent level ++ stringText name ++ ": " ++ text level v) :: memberLines level ms

end

def document (v : JsonValue) : String := v.text 0

end JsonValue

end PatternSampler
