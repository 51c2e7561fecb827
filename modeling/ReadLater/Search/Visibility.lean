import ReadLater.Filter.Compile
import ReadLater.Library.Item

/-!
# Visible items

Every search and every bulk action is restricted to the items of one user. Items that are still
being fetched and items in the trash are hidden, unless they are asked for.
-/

namespace ReadLater

structure Visibility where
  includePending : Bool := false
  includeDeleted : Bool := false
deriving DecidableEq, Repr

namespace Visibility

/-- The states that are hidden; a query for the trash shows deleted items. -/
def hidden (v : Visibility) (trash : Bool) : List ItemState :=
  (if v.includePending then [] else [.processing]) ++
    (if v.includeDeleted || trash then [] else [.deleted])

end Visibility

/-- The items of a user. -/
def ownedBy (ps : Parameters) (userId : String) : Predicate × Parameters :=
  (.test (.equals .userId (ps.nextName "user_id")), ps.bind "user_id" (.text userId))

/-- Leaves out the items in a state. -/
def hide (base : Predicate × Parameters) (s : ItemState) : Predicate × Parameters :=
  let (p, ps) := base
  (.and p (.test (.notEquals .state (ps.nextName "state"))), ps.bind "state" (.text s.name))

/-- The filter of a query among the items that a user may see. -/
def Compiled.visibleTo (c : Compiled) (userId : String) (v : Visibility) : Filter :=
  let (base, ps) := (v.hidden c.trash).foldl hide (ownedBy c.parameters userId)
  match c.predicate with
  | some p => ⟨some (.and base (.group p)), ps⟩
  | none => ⟨some base, ps⟩

end ReadLater
