import ReadLater.Text.Alphanumeric
import ReadLater.Text.LetterCase
import ReadLater.Text.Split

/-! # Words of a text -/

namespace ReadLater.FullText

/-- A word without a single plural s; words of up to three letters stay as they are. -/
def singular (word : List Char) : List Char :=
  if 3 < word.length ∧ word.getLast? = some 's' ∧ word.dropLast.getLast? ≠ some 's' then
    word.dropLast
  else word

/-- Maximal runs of letters and digits in lower case and singular. -/
def wordLists (text : List Char) : List (List Char) :=
  ((Text.splitBy (fun c => !Text.isAlphanumeric c) text).filter fun w => !w.isEmpty).map
    fun w => singular (Text.lowerChars w)

def words (text : String) : List String :=
  (wordLists text.toList).map String.ofList

end ReadLater.FullText
