/-! # Columns of the item table -/

namespace ReadLater

inductive Column
  | id
  | userId
  | state
  | folder
  | itemType
  | title
  | author
  | description
  | note
  | siteName
  | subscription
  | itemLanguage
  | labelNames
  | highlightLabels
  | highlightAnnotations
  | recommenderNames
  | wordCount
  | readingProgressTop
  | readingProgressBottom
  | savedAt
  | updatedAt
  | publishedAt
  | readAt
  | archivedAt
  | deletedAt
deriving DecidableEq, Repr

namespace Column

def name : Column → String
  | .id => "id"
  | .userId => "user_id"
  | .state => "state"
  | .folder => "folder"
  | .itemType => "item_type"
  | .title => "title"
  | .author => "author"
  | .description => "description"
  | .note => "note"
  | .siteName => "site_name"
  | .subscription => "subscription"
  | .itemLanguage => "item_language"
  | .labelNames => "label_names"
  | .highlightLabels => "highlight_labels"
  | .highlightAnnotations => "highlight_annotations"
  | .recommenderNames => "recommender_names"
  | .wordCount => "word_count"
  | .readingProgressTop => "reading_progress_top_percent"
  | .readingProgressBottom => "reading_progress_bottom_percent"
  | .savedAt => "saved_at"
  | .updatedAt => "updated_at"
  | .publishedAt => "published_at"
  | .readAt => "read_at"
  | .archivedAt => "archived_at"
  | .deletedAt => "deleted_at"

/-- All columns, in table order. -/
def all : List Column :=
  [.id, .userId, .state, .folder, .itemType, .title, .author, .description, .note, .siteName,
    .subscription, .itemLanguage, .labelNames, .highlightLabels, .highlightAnnotations,
    .recommenderNames, .wordCount, .readingProgressTop, .readingProgressBottom, .savedAt,
    .updatedAt, .publishedAt, .readAt, .archivedAt, .deletedAt]

def ofName? (name : String) : Option Column :=
  all.find? fun c => c.name == name

/-- The column holds a list of texts. -/
def isArray : Column → Bool
  | .labelNames | .highlightLabels | .highlightAnnotations | .recommenderNames => true
  | _ => false

/-- Labels of an item and of its highlights. -/
def labelSet : List Column :=
  [.labelNames, .highlightLabels]

end Column

/-- A full-text index over title and content together, or over one column. -/
inductive TextIndex
  | search
  | column (c : Column)
deriving DecidableEq, Repr

end ReadLater
