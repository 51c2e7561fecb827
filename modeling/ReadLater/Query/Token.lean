import ReadLater.Query.Error
import ReadLater.Text.Blank

/-!
# Tokens of a query

Blanks and parentheses separate words, except within double quotes. A minus sign at the start of a
longer word is a token of its own.
-/

namespace ReadLater.Query

inductive Token
  | opening
  | closing
  | and
  | or
  | not
  | term (text : List Char)
deriving DecidableEq, Repr

/-- A token and the number of bytes before it. -/
structure PlacedToken where
  token : Token
  offset : Nat
deriving DecidableEq, Repr

/-- The keyword that a word is, if it is one. -/
def keyword? (word : List Char) : Option Token :=
  if word = ['A', 'N', 'D'] then some .and
  else if word = ['O', 'R'] then some .or
  else if word = ['N', 'O', 'T'] then some .not
  else none

/-- The tokens of a non-empty word. -/
def wordTokens (offset : Nat) : List Char → List PlacedToken
  | [] => []
  | c :: rest =>
    match keyword? (c :: rest) with
    | some token => [⟨token, offset⟩]
    | none =>
      if c = '-' ∧ rest ≠ [] then ⟨.not, offset⟩ :: wordTokens (offset + 1) rest
      else [⟨.term (c :: rest), offset⟩]

/--
The tokens of the remaining text. `word` holds the characters of the word so far, last one first,
`start` its offset, and `quote` the offset of the quote that is open.
-/
def tokensFrom (offset start : Nat) (word : List Char) (quote : Option Nat) :
    List Char → Except QueryError (List PlacedToken)
  | [] =>
    match quote with
    | some q => .error (.malformed q .unterminatedQuote)
    | none => .ok (wordTokens start word.reverse)
  | c :: rest =>
    let next := offset + c.utf8Size
    let start := if word.isEmpty then offset else start
    if c = '"' then
      tokensFrom next start (c :: word) (if quote.isSome then none else some offset) rest
    else if quote.isSome then tokensFrom next start (c :: word) quote rest
    else if Text.isBlank c then
      (tokensFrom next next [] none rest).map (wordTokens start word.reverse ++ ·)
    else if c = '(' ∨ c = ')' then
      let bracket : PlacedToken := ⟨if c = '(' then .opening else .closing, offset⟩
      (tokensFrom next next [] none rest).map (wordTokens start word.reverse ++ bracket :: ·)
    else tokensFrom next start (c :: word) none rest

def tokens (text : List Char) : Except QueryError (List PlacedToken) :=
  tokensFrom 0 0 [] none text

end ReadLater.Query
