import PatternSampler.Token

/-! # Listing of a pattern's tokens

One line for each token: its kind, its text and its span, in columns. The columns of kind and text are
filled with blanks up to a width that counts characters; what is wider takes the room it needs.
-/

namespace PatternSampler

/-- Widths of the first two columns of a listing. -/
structure ListingColumns where
  kind : Nat
  text : Nat

/-- The longest kind has twelve letters; a token's text is mostly one or two characters. -/
def Listing.columns : ListingColumns := ⟨12, 4⟩

/-- Fill `text` up with blanks on the right to `width` characters. -/
def padRight (width : Nat) (text : String) : String :=
  text ++ String.ofList (List.replicate (width - text.length) ' ')

def Lexeme.listingLine (l : Lexeme) : String :=
  padRight Listing.columns.kind l.token.kindName ++ " "
    ++ padRight Listing.columns.text l.token.text ++ " " ++ l.span.text

/-- The lines of all tokens with a line feed between them; no tokens give the empty text. -/
def tokenListing (lexemes : List Lexeme) : String :=
  "\n".intercalate (lexemes.map Lexeme.listingLine)

end PatternSampler
