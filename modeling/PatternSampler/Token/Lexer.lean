import PatternSampler.Token

/-! # Cutting a pattern into tokens

The characters of a pattern are read from left to right, a backslash together with the character
after it. The only text that is no token is a backslash with nothing to escape: one at the end of the
pattern, or before a line feed.
-/

namespace PatternSampler

inductive LexError where
  /-- The backslash at `offset` escapes nothing. -/
  | danglingBackslash (offset : Nat)
  deriving Repr, DecidableEq

namespace LexError

/-- Where the text that is no token starts. -/
def offset : LexError → Nat
  | danglingBackslash offset => offset

def fragment : LexError → String
  | danglingBackslash _ => "\\"

def span (e : LexError) : Span := ⟨e.offset, e.offset + e.fragment.utf8ByteSize⟩

def message (e : LexError) : String :=
  "unexpected input `" ++ e.fragment ++ "` at offset " ++ toString e.offset

end LexError

namespace Token

/-- The tokens of a text whose first character stands at byte `offset`. -/
def scan (offset : Nat) : List Char → Except LexError (List Lexeme)
  | [] => .ok []
  | ['\\'] => .error (.danglingBackslash offset)
  | '\\' :: c :: rest =>
    if c = '\n' then .error (.danglingBackslash offset)
    else
      let stop := offset + 1 + c.utf8Size
      (⟨escape c, offset, stop⟩ :: ·) <$> scan stop rest
  | c :: rest =>
    let stop := offset + c.utf8Size
    (⟨ofChar c, offset, stop⟩ :: ·) <$> scan stop rest

end Token

/-- The tokens of a pattern, each with the bytes that it covers. -/
def tokenize (pattern : String) : Except LexError (List Lexeme) :=
  Token.scan 0 pattern.toList

end PatternSampler
