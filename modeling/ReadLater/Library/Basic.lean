import ReadLater.Library.Item
import ReadLater.Library.Label

/-! # Libraries -/

namespace ReadLater

/-- Items, labels and links, in storage order. -/
structure Library where
  items : List Item := []
  labels : List Label := []
  links : List LabelLink := []
deriving DecidableEq

/-- Assignments to the columns of an item; a missing one leaves the column alone. -/
structure Changes where
  state : Option ItemState := none
  folder : Option String := none
  archivedAt : Option Time.Instant := none
  deletedAt : Option Time.Instant := none
  readAt : Option Time.Instant := none
  /-- Sets both ends of the reading progress. -/
  readingProgress : Option Float := none
  updatedAt : Option Time.Instant := none
deriving DecidableEq

namespace Changes

/-- No column is assigned. -/
def isEmpty (c : Changes) : Bool :=
  c.state.isNone && c.folder.isNone && c.archivedAt.isNone && c.deletedAt.isNone &&
    c.readAt.isNone && c.readingProgress.isNone && c.updatedAt.isNone

def apply (c : Changes) (i : Item) : Item :=
  { i with
    state := c.state.getD i.state
    folder := c.folder.getD i.folder
    archivedAt := c.archivedAt.or i.archivedAt
    deletedAt := c.deletedAt.or i.deletedAt
    readAt := c.readAt.or i.readAt
    readingProgressTop := c.readingProgress.getD i.readingProgressTop
    readingProgressBottom := c.readingProgress.getD i.readingProgressBottom
    updatedAt := c.updatedAt.or i.updatedAt }

end Changes

end ReadLater
