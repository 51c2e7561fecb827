import ReadLater.Library.Selection
import ReadLater.Sql.Expression

/-! # SQL statements -/

namespace ReadLater.Sql

/-- A clause after what stands before it; an empty clause adds nothing. -/
def clause (text : String) : String :=
  if text = "" then "" else " " ++ text

def number (n : Nat) : String :=
  String.ofList (Text.decimal n)

def select (s : Selection) : String :=
  "SELECT " ++ table ++ ".*" ++ String.join (s.ranks.map fun c => ", " ++ rankColumn c) ++
    " FROM " ++ table ++ clause (whereClause s.filter) ++ clause (orderClause s.sort) ++
    " LIMIT " ++ number s.limit ++ " OFFSET " ++ number s.offset

def count (f : Filter) : String :=
  "SELECT COUNT(*) FROM " ++ table ++ clause (whereClause f)

/-- The columns that changes assign, in the order of the statement. -/
def assigned (c : Changes) : List Column :=
  (if c.state.isSome then [.state] else []) ++
  (if c.folder.isSome then [.folder] else []) ++
  (if c.archivedAt.isSome then [.archivedAt] else []) ++
  (if c.deletedAt.isSome then [.deletedAt] else []) ++
  (if c.readAt.isSome then [.readAt] else []) ++
  (if c.readingProgress.isSome then [.readingProgressTop, .readingProgressBottom] else []) ++
  (if c.updatedAt.isSome then [.updatedAt] else [])

def assignment (c : Column) : String :=
  c.name ++ " = " ++ parameter ("set_" ++ c.name)

def update (f : Filter) (c : Changes) : String :=
  "UPDATE " ++ table ++ " SET " ++ Text.join ", " ((assigned c).map assignment) ++
    clause (whereClause f)

/-- The row of the link with a number. -/
def linkRow (i : Nat) : String :=
  "(" ++ parameter (numbered "label_id" i) ++ ", " ++
    parameter (numbered "library_item_id" i) ++ ")"

def insertLinks (links : List LabelLink) : String :=
  "INSERT INTO entity_labels (label_id, library_item_id) VALUES " ++
    Text.join ", " ((List.range links.length).map linkRow) ++ " ON CONFLICT DO NOTHING"

end ReadLater.Sql
