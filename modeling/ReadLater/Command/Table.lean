import ReadLater.Double.Fixed
import ReadLater.Search.Page
import ReadLater.Text.Width
import ReadLater.Time.Timestamp

/-! # Tables of search results -/

namespace ReadLater.Command

def titleColumns : Nat := 48

def folderColumns : Nat := 12

/-- A text in a column of a table. -/
def cell (columns : Nat) (s : String) : List Char :=
  Text.padColumns columns (Text.truncate columns s.toList)

def headLine : List Char :=
  "  ".toList ++ Text.padEnd 4 ' ' ['#'] ++ ' ' :: Text.padEnd 16 ' ' "Saved".toList ++
    ' ' :: cell titleColumns "Title" ++ ' ' :: cell folderColumns "Folder" ++
    ' ' :: Text.padStart 6 ' ' "Read".toList

def ruleLine : List Char :=
  "  ".toList ++ List.replicate (4 + 16 + titleColumns + folderColumns + 6 + 4) '-'

def savedText (t : Time.Instant) : List Char :=
  Time.writeDate t.date ++ ' ' :: Time.writeMinutes t

def rowLine (number : Nat) (i : Item) : List Char :=
  "  ".toList ++ Text.padEnd 4 ' ' (Text.decimal number) ++
    ' ' :: Text.padEnd 16 ' ' (savedText i.savedAt) ++
    ' ' :: cell titleColumns i.title ++ ' ' :: cell folderColumns i.folder ++
    ' ' :: Text.padStart 5 ' ' (Double.fixed 0 i.readingProgressBottom) ++ ['%']

def rowLines (number : Nat) : List Row → List (List Char)
  | [] => []
  | r :: rest => rowLine number r.item :: rowLines (number + 1) rest

def countLine (p : Page) : List Char :=
  let total := match p.total with
    | some n => " of ".toList ++ Text.decimal n
    | none => []
  "  ".toList ++ Text.decimal p.rows.length ++ total ++ " result(s)".toList

/-- The lines that show a page. -/
def tableLines (p : Page) : List (List Char) :=
  let body :=
    if p.rows.isEmpty then []
    else
      let more := match p.nextCursor with
        | some cursor => [[], "  more: --after ".toList ++ cursor.toList]
        | none => []
      headLine :: ruleLine :: rowLines 1 p.rows ++ more ++ [[]]
  [[], countLine p, []] ++ body

end ReadLater.Command
