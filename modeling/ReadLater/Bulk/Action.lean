import ReadLater.Json.Variant
import ReadLater.Library.Basic

/-! # Bulk actions -/

namespace ReadLater

inductive BulkAction
  | archive
  /-- Moves to the trash. -/
  | delete
  | markRead
  | move (folder : String)
  | addLabels (labelIds : List String)
deriving DecidableEq, Repr

namespace BulkAction

def name : BulkAction → String
  | .archive => "archive"
  | .delete => "delete"
  | .markRead => "mark-read"
  | .move _ => "move"
  | .addLabels _ => "add-labels"

/-- The assignments of an action; adding labels assigns no column. -/
def changes? (now : Time.Instant) : BulkAction → Option Changes
  | .archive => some { archivedAt := now, state := some .archived, updatedAt := now }
  | .delete => some { deletedAt := now, state := some .deleted, updatedAt := now }
  | .markRead => some { readAt := now, readingProgress := some 100.0, updatedAt := now }
  | .move folder => some { folder := some folder, updatedAt := now }
  | .addLabels _ => none

def kinds : List String :=
  ["ARCHIVE", "DELETE", "MARK_AS_READ", "MOVE_TO_FOLDER", "ADD_LABELS"]

def ofJson? (json : Json) : Option BulkAction := do
  let (kind, members) ← json.untag? kinds false
  if kind = "MOVE_TO_FOLDER" then
    let [some folder] ← members.pick? ["folder"] | none
    return .move (← folder.text?)
  else if kind = "ADD_LABELS" then
    let [some ids] ← members.pick? ["label_ids"] | none
    return .addLabels (← ids.list? Json.text?)
  else if !members.allEmpty then none
  else if kind = "ARCHIVE" then some .archive
  else if kind = "DELETE" then some .delete
  else some .markRead

end BulkAction

end ReadLater
