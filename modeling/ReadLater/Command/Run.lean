import ReadLater.Bulk.Apply
import ReadLater.Command.Invocation
import ReadLater.Command.Table
import ReadLater.Config.Basic
import ReadLater.Library.Snapshot
import ReadLater.Sql.Statement

/-!
# Running commands

A command turns the snapshot it reads into texts to print, an exit code, and for a bulk action the
new text of the snapshot.
-/

namespace ReadLater.Command

/-- Why a file cannot be read or written. -/
inductive FileError
  | notFound
  | notDirectory
  | isDirectory
  | nameTooLong
  | notText
  | other (message : String)
deriving DecidableEq, Repr

def FileError.message : FileError → String
  | .notFound => "No such file or directory (os error 2)"
  | .notDirectory => "Not a directory (os error 20)"
  | .isDirectory => "Is a directory (os error 21)"
  | .nameTooLong => "File name too long (os error 36)"
  | .notText => "stream did not contain valid UTF-8"
  | .other message => message

inductive CommandError
  | request (e : RequestError)
  | file (path : String) (e : FileError)
  | unwritten (path : String) (e : FileError)
  | snapshot (path : String) (message : String)
deriving DecidableEq, Repr

/-- The lines of a message, of which all but the first are indented. -/
def indentedLines (indent message : String) : String :=
  Text.join ("\n" ++ indent) ((Text.splitBy (· == '\n') message.toList).map String.ofList)

/-- One of several causes. -/
def causeLine (number : Nat) (message : String) : String :=
  "    " ++ String.ofList (Text.decimal number) ++ ": " ++ indentedLines "       " message

def causeLines : List String → List String
  | [message] => ["    " ++ indentedLines "    " message]
  | messages => (List.range messages.length).zipWith causeLine messages

/-- The message of an error with its causes, the nearest one first. -/
def withCauses (message : String) (causes : List String) : String :=
  message ++ "\n\nCaused by:\n" ++ Text.join "\n" (causeLines causes)

def FileError.at (e : FileError) (path : String) : String :=
  "I/O error reading '" ++ path ++ "': " ++ e.message

def CommandError.message : CommandError → String
  | .request e => e.message
  | .file path e => withCauses ("could not open library " ++ path) [e.at path, e.message]
  | .unwritten path e => withCauses (e.at path) [e.message]
  | .snapshot path message =>
    withCauses ("could not open library " ++ path)
      ["Invalid library snapshot: " ++ message, message]

/-- What a command prints, and the new text of the snapshot if it writes one. -/
structure Output where
  text : String
  written : Option String := none
deriving DecidableEq, Repr

/-- Everything outside of its arguments that a command depends on. -/
structure Surroundings where
  config : Config
  now : Time.Moment
  /-- The text of the snapshot that the command names. -/
  snapshot : Except FileError String

def unlines (lines : List (List Char)) : String :=
  String.ofList (lines.flatMap fun line => line ++ ['\n'])

def valueJson : ParameterValue → Json
  | .text s => .string s
  | .list ss => Json.strings ss
  | .int n => Json.int n.toInt
  | .time t => timeJson t

def directiveJson (d : SortDirective) : Json :=
  .object [("by", .string d.key), ("direction", .string d.direction.name),
    ("nulls", .string d.nulls.name)]

def compiledJson (c : Compiled) : Json :=
  Json.ofMembers [
    ("where", .string (Sql.whereClause c.filter)),
    ("parameters", Json.ofMembers (c.parameters.entries.map fun p => (p.name, valueJson p.value))),
    ("extra_columns", Json.strings (c.ranks.map Sql.rankColumn)),
    ("order_by", .string (Sql.orderClause c.sort)),
    ("sort", .array (c.sort.map directiveJson)),
    ("trash", .bool c.trash)]

def parameterLine (p : Parameter) : List Char :=
  "    :".toList ++ Text.padEnd 24 ' ' p.name.toList ++ ' ' :: (valueJson p.value).write

def compiledLines (c : Compiled) : List (List Char) :=
  let condition := Sql.whereClause c.filter
  let order := Sql.orderClause c.sort
  [[], "  ".toList ++ (if condition = "" then "(no filter)" else condition).toList] ++
    (c.ranks.map fun r => "  SELECT ".toList ++ (Sql.rankColumn r).toList) ++
    (if order = "" then [] else ["  ".toList ++ order.toList]) ++
    (if c.parameters.entries.isEmpty then []
      else [] :: c.parameters.entries.map parameterLine) ++
    [[]]

def jsonLine (json : Json) : String :=
  json.indented ++ "\n"

def pageJson (p : Page) : Json :=
  .object ([("items", .array (p.rows.map Row.toJson))] ++
    (match p.nextCursor with
      | some cursor => [("next_cursor", .string cursor)]
      | none => []) ++
    (match p.total with
      | some n => [("total_count", Json.int n)]
      | none => []))

def resultJson (r : BulkResult) : Json :=
  .object [("matched", Json.int r.matched), ("affected", Json.int r.affected),
    ("success", .bool true)]

def resultLine (action : BulkAction) (r : BulkResult) : String :=
  "  " ++ action.name ++ ": " ++ Sql.number r.matched ++ " matched, " ++
    Sql.number r.affected ++ " changed\n"

/-- The statement that a bulk action stands for; for labels, one that shows the first items. -/
def statement (action : BulkAction) (now : Time.Instant) (f : Filter) : String :=
  match action.changes? now with
  | some changes => Sql.update f changes
  | none => Sql.select ⟨f, [], [], 0, SearchSettings.pageLimit⟩

/-- The default order of a search: what is not given is that of the configuration. -/
def sortOf (config : SearchConfig) (sortBy : Option SortBy) (order : Option SortOrder) :
    Option SortParameters :=
  if sortBy.isNone && order.isNone then none
  else
    let default := config.sortParameters
    some ⟨sortBy.getD default.key, order.getD default.order⟩

def openLibrary (path : String) (snapshot : Except FileError String) :
    Except CommandError Library :=
  match snapshot with
  | .error e => .error (.file path e)
  | .ok text =>
    match Library.ofSnapshot text with
    | .ok l => .ok l
    | .error fault => .error (.snapshot path (fault.message text))

namespace Surroundings

def compile (s : Surroundings) (query : String) (useFolders json : Bool) :
    Except CommandError Output := do
  let options : CompileOptions := ⟨useFolders, s.now, s.config.search.weekStart⟩
  let compiled ← (Query.compileText options query).mapError fun e => .request (.query e)
  return ⟨if json then jsonLine (compiledJson compiled) else unlines (compiledLines compiled), none⟩

def search (s : Surroundings) (path : String) (r : SearchRequest) (json : Bool) :
    Except CommandError Output := do
  let l ← openLibrary path s.snapshot
  let page ← (l.search s.now.instant s.config.search.settings r s.now).mapError .request
  return ⟨if json then jsonLine (pageJson page) else unlines (tableLines page), none⟩

def dryRun (s : Surroundings) (l : Library) (r : BulkRequest) : Except CommandError Output := do
  let f ← (r.filter s.config.search.settings s.now).mapError .request
  let matched ← (l.count s.now.instant f).mapError fun e => .request (.store e)
  return ⟨statement r.action s.now.instant f ++ "\n-- " ++ Sql.number matched ++
    " item(s) would be affected\n", none⟩

def bulk (s : Surroundings) (path : String) (r : BulkRequest) (dry json : Bool) :
    Except CommandError Output := do
  let l ← openLibrary path s.snapshot
  if dry then s.dryRun l r
  else
    let (after, result) ←
      (l.bulk s.now.instant s.config.search.settings r s.now).mapError .request
    return ⟨if json then jsonLine (resultJson result) else resultLine r.action result,
      some after.snapshot⟩

end Surroundings

def usage : String :=
  "Usage: readshelf [-v] compile|search|bulk ARGUMENTS\n"

def Invocation.run (s : Surroundings) : Invocation → Except CommandError Output
  | .help => .ok ⟨usage, none⟩
  | .version => .ok ⟨"readshelf 0.1.0\n", none⟩
  | .compile query useFolders json => s.compile query useFolders json
  | .search path request sortBy order json =>
    s.search path { request with sort := sortOf s.config.search sortBy order } json
  | .bulk path request dry json => s.bulk path request dry json

/-- What the program shows of an error. -/
def errorText (e : CommandError) : String :=
  "Error: " ++ e.message ++ "\n"

end ReadLater.Command
