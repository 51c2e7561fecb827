import ReadLater.Bulk.Action

/-! # Bulk requests -/

namespace ReadLater

structure BulkRequest where
  userId : String
  query : String
  action : BulkAction
  useFolders : Bool := false
deriving DecidableEq, Repr

namespace BulkRequest

def ofJson? (json : Json) : Option BulkRequest := do
  let [some userId, some query, some action, useFolders] ←
    json.fields? ["user_id", "query", "action", "use_folders"] | none
  return {
    userId := ← userId.text?
    query := ← query.text?
    action := ← BulkAction.ofJson? action
    useFolders := ← Json.given? Json.flag? false useFolders }

end BulkRequest

end ReadLater
