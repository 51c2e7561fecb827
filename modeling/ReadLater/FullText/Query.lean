import ReadLater.Double.Logarithm
import ReadLater.FullText.Words
import ReadLater.Text.Blank

/-!
# Full-text queries

A query asks for words and quoted phrases. A minus sign excludes the word after it, and `or`
between two terms accepts either.
-/

namespace ReadLater.FullText

structure Term where
  words : List (List Char)
  negated : Bool
deriving DecidableEq, Repr

/-- Every group must hold; a group holds when one of its terms does. -/
structure Query where
  groups : List (List Term)
deriving DecidableEq, Repr

/-- A piece of query text, and whether it stood in quotes. -/
structure Piece where
  text : List Char
  quoted : Bool
deriving DecidableEq, Repr

/-- The pieces of the remaining text; `current` is the piece so far, last character first. -/
def piecesFrom (current : List Char) (inQuotes : Bool) : List Char → List Piece
  | [] => if current.isEmpty then [] else [⟨current.reverse, inQuotes⟩]
  | c :: rest =>
    if c = '"' then
      if inQuotes || !current.isEmpty then
        ⟨current.reverse, inQuotes⟩ :: piecesFrom [] (!inQuotes) rest
      else piecesFrom [] (!inQuotes) rest
    else if Text.isBlank c && !inQuotes then
      if current.isEmpty then piecesFrom [] false rest
      else ⟨current.reverse, false⟩ :: piecesFrom [] false rest
    else piecesFrom (c :: current) inQuotes rest

def pieces (text : List Char) : List Piece :=
  piecesFrom [] false text

def Piece.isOr (p : Piece) : Bool :=
  !p.quoted && p.text.map Char.toLower == ['o', 'r']

/-- The term of a piece, if it has any words. -/
def Piece.term? (p : Piece) : Option Term :=
  let (negated, body) :=
    match p.quoted, p.text with
    | false, '-' :: rest => (true, rest)
    | _, text => (false, text)
  let words := wordLists body
  if words.isEmpty then none else some ⟨words, negated⟩

/-- Adds a term to the last group or as a group of its own. -/
def addTerm (groups : List (List Term)) (joined : Bool) (t : Term) : List (List Term) :=
  match joined, groups.getLast? with
  | true, some group => groups.dropLast ++ [group ++ [t]]
  | _, _ => groups ++ [[t]]

/-- Groups the terms of the remaining pieces; `joined` holds after an `or`. -/
def collectGroups (groups : List (List Term)) (joined : Bool) : List Piece → List (List Term)
  | [] => groups
  | p :: rest =>
    if p.isOr then collectGroups groups (!groups.isEmpty) rest
    else
      match p.term? with
      | none => collectGroups groups joined rest
      | some t => collectGroups (addTerm groups joined t) false rest

namespace Query

def parse (text : String) : Query :=
  ⟨collectGroups [] false (pieces text.toList)⟩

def isEmpty (q : Query) : Bool :=
  q.groups.isEmpty

end Query

/-- Number of places where `phrase` occurs as a contiguous run. -/
def countRuns (phrase : List (List Char)) : List (List Char) → Nat
  | [] => if phrase.isEmpty then 1 else 0
  | w :: rest => (if phrase.isPrefixOf (w :: rest) then 1 else 0) + countRuns phrase rest

namespace Term

def occurrences (t : Term) (document : List (List Char)) : Nat :=
  countRuns t.words document

def holds (t : Term) (document : List (List Char)) : Bool :=
  (0 < t.occurrences document) != t.negated

end Term

namespace Query

/-- An empty query holds of no document. -/
def holds (q : Query) (document : String) : Bool :=
  let ws := wordLists document.toList
  !q.isEmpty && q.groups.all fun group => group.any fun t => t.holds ws

/-- Occurrences of the terms that are not negated. -/
def hits (q : Query) (document : List (List Char)) : Nat :=
  let terms := q.groups.flatten.filter fun t => !t.negated
  (terms.map fun t => t.occurrences document).foldr (· + ·) 0

/-- Hits, damped by the length of the document. -/
def rank (q : Query) (document : String) : Float :=
  let ws := wordLists document.toList
  let hits := q.hits ws
  if hits = 0 then 0.0
  else Float.ofNat hits / (1.0 + Double.log (ws.length + 1).toUInt64)

end Query

end ReadLater.FullText
