import ReadLater.Bulk.Request
import ReadLater.Command.Arguments
import ReadLater.Search.Request
import ReadLater.Text.Decimal

/-! # Commands

What the program is asked to do by its arguments.
-/

namespace ReadLater.Command

inductive Invocation
  | help
  | version
  | compile (query : String) (useFolders json : Bool)
  /-- The default order may be given in part; the rest is that of the configuration. -/
  | search (library : String) (request : SearchRequest) (sortBy : Option SortBy)
    (order : Option SortOrder) (json : Bool)
  | bulk (library : String) (request : BulkRequest) (dryRun json : Bool)
deriving DecidableEq, Repr

def verbose : OptionSpec := ⟨"verbose", some 'v', .counted⟩

def help : OptionSpec := ⟨"help", some 'h', .help⟩

def programOptions : List OptionSpec :=
  [verbose, help, ⟨"version", some 'V', .version⟩]

def compileOptions : List OptionSpec :=
  [verbose, help, ⟨"use-folders", none, .flag⟩, ⟨"json", none, .flag⟩]

def searchOptions : List OptionSpec :=
  [verbose, help, ⟨"user", some 'u', .single⟩, ⟨"first", none, .single⟩,
    ⟨"after", none, .single⟩, ⟨"include-deleted", none, .flag⟩,
    ⟨"include-pending", none, .flag⟩, ⟨"use-folders", none, .flag⟩, ⟨"total", none, .flag⟩,
    ⟨"sort-by", none, .single⟩, ⟨"order", none, .single⟩, ⟨"json", none, .flag⟩]

def bulkOptions : List OptionSpec :=
  [verbose, help, ⟨"user", some 'u', .single⟩, ⟨"action", some 'a', .single⟩,
    ⟨"folder", none, .single⟩, ⟨"label", none, .repeated⟩, ⟨"use-folders", none, .flag⟩,
    ⟨"dry-run", none, .flag⟩, ⟨"json", none, .flag⟩]

/-- The value of an option, if it is given, must be readable. -/
def readValue (a : Arguments) (name : String) (read : String → Option α) :
    Except Stop (Option α) :=
  match a.value? name with
  | none => .ok none
  | some s =>
    match read s with
    | some value => .ok (some value)
    | none => .error .invalid

def required : Option α → Except Stop α
  | some value => .ok value
  | none => .error .invalid

def readSize (s : String) : Option Nat :=
  Text.unsigned? s.toList

def readSortBy (s : String) : Option SortBy :=
  if s = "updated" then some .updatedTime
  else if s = "saved" then some .savedAt
  else if s = "published" then some .publishedAt
  else none

def readOrder (s : String) : Option SortOrder :=
  if s = "asc" then some .ascending
  else if s = "desc" then some .descending
  else none

/-- The action of a name; moving needs a folder, and adding labels needs a label. -/
def readAction (a : Arguments) (name : String) : Option BulkAction :=
  if name = "archive" then some .archive
  else if name = "delete" then some .delete
  else if name = "mark-read" then some .markRead
  else if name = "move" then (a.value? "folder").map .move
  else if name = "add-labels" then
    let labels := a.values "label"
    if labels.isEmpty then none else some (.addLabels labels)
  else none

def readCompile (a : Arguments) : Except Stop Invocation :=
  match a.positional with
  | [query] => .ok (.compile query (a.has "use-folders") (a.has "json"))
  | _ => .error .invalid

/-- A library and a query; the path of the library is not empty. -/
def readTarget (a : Arguments) : Except Stop (String × String) :=
  match a.positional with
  | [library, query] => if library = "" then .error .invalid else .ok (library, query)
  | _ => .error .invalid

def readSearch (a : Arguments) : Except Stop Invocation := do
  let (library, query) ← readTarget a
  let request : SearchRequest := {
    userId := ← required (a.value? "user")
    query
    first := ← readValue a "first" readSize
    after := a.value? "after"
    useFolders := a.has "use-folders"
    includeDeleted := a.has "include-deleted"
    includePending := a.has "include-pending"
    includeTotal := a.has "total" }
  return .search library request (← readValue a "sort-by" readSortBy)
    (← readValue a "order" readOrder) (a.has "json")

def readBulk (a : Arguments) : Except Stop Invocation := do
  let (library, query) ← readTarget a
  let action ← required (← readValue a "action" (readAction a))
  let request : BulkRequest := {
    userId := ← required (a.value? "user")
    query
    action
    useFolders := a.has "use-folders" }
  return .bulk library request (a.has "dry-run") (a.has "json")

def readCommand (args : List String) : Except Stop Invocation := do
  let (a, rest) ← readArguments programOptions true {} none args
  let arguments (specs : List OptionSpec) := (·.1) <$> readArguments specs false {} none rest
  match a.positional with
  | ["compile"] => readCompile (← arguments compileOptions)
  | ["search"] => readSearch (← arguments searchOptions)
  | ["bulk"] => readBulk (← arguments bulkOptions)
  | _ => .error .invalid

/-- The invocation of a list of arguments, unless they are invalid. -/
def Invocation.ofArguments? (args : List String) : Option Invocation :=
  match readCommand args with
  | .ok invocation => some invocation
  | .error .help => some .help
  | .error .version => some .version
  | .error .invalid => none

/-- The snapshot that a command reads. -/
def Invocation.library? : Invocation → Option String
  | .search library .. => some library
  | .bulk library .. => some library
  | _ => none

end ReadLater.Command
