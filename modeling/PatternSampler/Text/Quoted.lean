import PatternSampler.Text.Unshown

/-! # Quoted text

Text in double quotes, for messages. Quotes, backslashes and a few controls have short escapes, and
every other character that is not shown is written as its code point in hexadecimal digits.
-/

namespace PatternSampler.Text

def codePointEscape (c : Char) : List Char :=
  "\\u\x7b".toList ++ Nat.toDigits 16 c.toNat ++ "\x7d".toList

def quotedChar (c : Char) : List Char :=
  match c with
  | '"' => ['\\', '"']
  | '\\' => ['\\', '\\']
  | '\n' => ['\\', 'n']
  | '\r' => ['\\', 'r']
  | '\t' => ['\\', 't']
  | '\x00' => ['\\', '0']
  | c => if isShown c then [c] else codePointEscape c

def quoted (s : String) : String :=
  String.ofList ('"' :: s.toList.flatMap quotedChar ++ ['"'])

/-- Quoted texts in braces, with commas between them. -/
def quotedSet (ss : List String) : String :=
  "\x7b" ++ ", ".intercalate (ss.map quoted) ++ "\x7d"

end PatternSampler.Text
