import ReadLater.Time.Instant

/-! # Items of a library -/

namespace ReadLater

inductive ItemState
  | succeeded
  /-- Still being fetched. -/
  | processing
  | failed
  /-- In the trash. -/
  | deleted
  | archived
  | contentNotFetched
deriving DecidableEq, Repr

namespace ItemState

def name : ItemState → String
  | .succeeded => "SUCCEEDED"
  | .processing => "PROCESSING"
  | .failed => "FAILED"
  | .deleted => "DELETED"
  | .archived => "ARCHIVED"
  | .contentNotFetched => "CONTENT_NOT_FETCHED"

def all : List ItemState :=
  [.succeeded, .processing, .failed, .deleted, .archived, .contentNotFetched]

def ofName? (name : String) : Option ItemState :=
  all.find? fun s => s.name == name

end ItemState

/-- A saved article, newsletter or file of one user. -/
structure Item where
  id : String
  userId : String
  state : ItemState := .succeeded
  folder : String := "inbox"
  itemType : String := "ARTICLE"
  title : String
  author : Option String := none
  description : Option String := none
  note : Option String := none
  siteName : Option String := none
  content : String := ""
  subscription : Option String := none
  itemLanguage : Option String := none
  labelNames : List String := []
  highlightLabels : List String := []
  highlightAnnotations : List String := []
  recommenderNames : List String := []
  wordCount : Option Int64 := none
  readingProgressTop : Float := 0.0
  readingProgressBottom : Float := 0.0
  savedAt : Time.Instant
  updatedAt : Option Time.Instant := none
  publishedAt : Option Time.Instant := none
  readAt : Option Time.Instant := none
  archivedAt : Option Time.Instant := none
  deletedAt : Option Time.Instant := none
deriving DecidableEq

/-- An item as it is first saved. -/
def Item.saved (id userId title : String) (savedAt : Time.Instant) : Item :=
  { id, userId, title, savedAt, updatedAt := some savedAt }

end ReadLater
