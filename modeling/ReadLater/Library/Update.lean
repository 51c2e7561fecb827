import ReadLater.Library.Selection

/-!
# Writing to a library

An update writes to every item that has the id of an item it matches. Adding label links also adds
the names of the labels to the items.
-/

namespace ReadLater.Library

/-- Applies changes; the count is that of the distinct ids that matched. -/
def update (l : Library) (now : Time.Instant) (f : Filter) (changes : Changes) :
    Except StoreError (Library × Nat) := do
  let ids := (← l.matchingIds now f).eraseDups
  if changes.isEmpty then return (l, ids.length)
  let items := l.items.map fun i => if ids.contains i.id then changes.apply i else i
  return ({ l with items }, ids.length)

/-- The labels of a user among some ids, in storage order. -/
def findLabels (l : Library) (userId : String) (ids : List String) : List Label :=
  l.labels.filter fun label => label.userId == userId && ids.contains label.id

def linksOf (l : Library) (itemIds : List String) : List LabelLink :=
  l.links.filter fun link => itemIds.contains link.itemId

/-- Adds a name to the first item with an id, unless it has that name. -/
def nameItem (itemId name : String) : List Item → List Item
  | [] => []
  | i :: rest =>
    if i.id = itemId then
      (if i.labelNames.contains name then i else { i with labelNames := i.labelNames ++ [name] })
        :: rest
    else i :: nameItem itemId name rest

/-- Adds one link, unless it is there. -/
def insertLink (l : Library) (link : LabelLink) : Library :=
  if l.links.contains link then l
  else
    let items :=
      match l.labels.find? fun label => label.id == link.labelId with
      | some label => nameItem link.itemId label.name l.items
      | none => l.items
    { l with items, links := l.links ++ [link] }

/-- Adds links in order and counts those that were not there. -/
def insertLinks (l : Library) (links : List LabelLink) : Library × Nat :=
  links.foldl
    (fun (after, n) link =>
      (after.insertLink link, if after.links.contains link then n else n + 1))
    (l, 0)

theorem insertLinks_cons (l : Library) (link : LabelLink) (links : List LabelLink) :
    l.insertLinks (link :: links) =
      (((l.insertLink link).insertLinks links).1,
        (if l.links.contains link then 0 else 1) + ((l.insertLink link).insertLinks links).2) := by
  -- the count that a run starts from is a part of its result
  have hfrom : ∀ (links : List LabelLink) (l : Library) (n : Nat),
      links.foldl (fun (after, n) link =>
        (after.insertLink link, if after.links.contains link then n else n + 1)) (l, n) =
      ((l.insertLinks links).1, n + (l.insertLinks links).2) := by
    intro links
    induction links with
    | nil => exact fun l n => rfl
    | cons link links ih =>
      intro l n
      have hone := ih (l.insertLink link) (if l.links.contains link then 0 else 1)
      have hn := ih (l.insertLink link) (if l.links.contains link then n else n + 1)
      have hstart : l.insertLinks (link :: links) =
          (((l.insertLink link).insertLinks links).1, (if l.links.contains link then 0 else 1) +
            ((l.insertLink link).insertLinks links).2) := hone
      rw [List.foldl_cons, hstart]
      refine hn.trans (Prod.ext rfl ?_)
      dsimp only
      split <;> omega
  exact hfrom links (l.insertLink link) (if l.links.contains link then 0 else 1)

end ReadLater.Library
