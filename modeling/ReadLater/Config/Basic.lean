import ReadLater.Search.Settings
import ReadLater.Text.LetterCase

/-!
# Configuration

What a user may set in a file. Names that are not understood stand for the default.
-/

namespace ReadLater

structure GeneralConfig where
  logLevel : String := "warn"
  /-- Where the log is kept. -/
  cacheDir : Option String := none
deriving DecidableEq, Repr

structure SearchConfig where
  defaultPageSize : Nat := 10
  maxPageSize : Nat := 100
  defaultSort : String := "updated_at"
  sortOrder : String := "desc"
  weekStartsOn : String := "monday"
deriving DecidableEq, Repr

structure Config where
  general : GeneralConfig := {}
  search : SearchConfig := {}
deriving DecidableEq, Repr

/-- The path of a file in a directory. -/
def inDirectory (directory file : String) : String :=
  if directory = "" ∨ directory.toList.getLast? = some '/' then directory ++ file
  else directory ++ "/" ++ file

namespace GeneralConfig

/-- The path of the log, if the directory for it is set. -/
def logFile? (c : GeneralConfig) : Option String :=
  c.cacheDir.map fun directory => inDirectory directory "readshelf.log"

end GeneralConfig

namespace SearchConfig

def sortBy (c : SearchConfig) : SortBy :=
  let name := Text.lower c.defaultSort
  if name = "saved_at" ∨ name = "saved" then .savedAt
  else if name = "published_at" ∨ name = "published" then .publishedAt
  else .updatedTime

def sortParameters (c : SearchConfig) : SortParameters :=
  ⟨c.sortBy, if Text.equalsAsciiCase c.sortOrder "asc" then .ascending else .descending⟩

def weekStart (c : SearchConfig) : Time.Weekday :=
  let name := Text.lower c.weekStartsOn
  if name = "sunday" ∨ name = "sun" then .sunday else .monday

/-- The size of the largest page. -/
def pageCap (c : SearchConfig) : Nat :=
  SearchSettings.clamp 1 SearchSettings.pageLimit c.maxPageSize

def settings (c : SearchConfig) : SearchSettings where
  defaultPageSize := SearchSettings.clamp 1 c.pageCap c.defaultPageSize
  maxPageSize := c.pageCap
  defaultSort := c.sortParameters
  weekStart := c.weekStart

end SearchConfig

end ReadLater
