import ReadLater.Text.CodeRange
import ReadLater.Text.LetterCaseTable

/-!
# Lower case

The lower case of a text. Every letter has its own lower case but the capital sigma, which turns
into a final sigma after a cased letter unless another cased letter follows.
-/

namespace ReadLater.Text

def isCased (c : Char) : Bool :=
  inRanges c.toNat casedRanges

def isCaseIgnorable (c : Char) : Bool :=
  inRanges c.toNat caseIgnorableRanges

def lowerCode (code : Nat) : List CaseRun → Nat
  | [] => code
  | run :: rest =>
    if code < run.first then code
    else if code ≤ run.last && (code - run.first) % run.step == 0 then
      (code + run.shift).toNat
    else lowerCode code rest

/-- Lower case of one character on its own; a dotted capital I takes two characters. -/
def lowerChar (c : Char) : List Char :=
  if c = 'İ' then ['i', '\u0307']
  else if c.toNat < 128 then [c.toLower]
  else [Char.ofNat (lowerCode c.toNat lowerRuns)]

/-- The first character that is not case-ignorable is a cased letter. -/
def casedNext (cs : List Char) : Bool :=
  match cs.dropWhile isCaseIgnorable with
  | [] => false
  | c :: _ => isCased c

/-- Lower case of what follows the characters `before`, which are given last one first. -/
def lowerAfter (before : List Char) : List Char → List Char
  | [] => []
  | c :: rest =>
    let here :=
      if c = 'Σ' then [if casedNext before && !casedNext rest then 'ς' else 'σ']
      else lowerChar c
    here ++ lowerAfter (c :: before) rest

def lowerChars (cs : List Char) : List Char :=
  lowerAfter [] cs

def lower (s : String) : String :=
  String.ofList (lowerChars s.toList)

/-- Equality of texts up to the case of ASCII letters. -/
def equalsAsciiCase (s t : String) : Bool :=
  s.toList.map Char.toLower == t.toList.map Char.toLower

end ReadLater.Text
