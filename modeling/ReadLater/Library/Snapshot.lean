import ReadLater.Json.Members
import ReadLater.Json.Record
import ReadLater.Json.Writer
import ReadLater.Library.Selection
import ReadLater.Time.Timestamp

/-!
# Snapshots

A library as one JSON object. Writing gives every member. On reading, members with a default may be
left out, and only what may be missing from an item may be null. The text is read as the types of
the members ask for, so that the first fault is told in the order of the text.
-/

namespace ReadLater

open Json (Fault Member Reader Record)

def timeJson (t : Time.Instant) : Json :=
  .string (Time.writeInstant t)

/-- A timestamp in its relaxed form. -/
def timeReader : Reader Time.Instant := do
  match Time.readRelaxedTimestamp (← Reader.text "an RFC 3339 formatted date and time string") with
  | .ok moment => return moment.instant
  | .error e => Reader.fail (.unfit e.message)

namespace ItemState

def reader : Reader ItemState := Reader.oneOf all name

def ofJson? (json : Json) : Option ItemState := do
  ofName? (← json.word?)

end ItemState

namespace Item

def members (i : Item) : List (String × Json) :=
  [("id", .string i.id),
    ("user_id", .string i.userId),
    ("state", .string i.state.name),
    ("folder", .string i.folder),
    ("item_type", .string i.itemType),
    ("title", .string i.title),
    ("author", Json.orNull .string i.author),
    ("description", Json.orNull .string i.description),
    ("note", Json.orNull .string i.note),
    ("site_name", Json.orNull .string i.siteName),
    ("content", .string i.content),
    ("subscription", Json.orNull .string i.subscription),
    ("item_language", Json.orNull .string i.itemLanguage),
    ("label_names", Json.strings i.labelNames),
    ("highlight_labels", Json.strings i.highlightLabels),
    ("highlight_annotations", Json.strings i.highlightAnnotations),
    ("recommender_names", Json.strings i.recommenderNames),
    ("word_count", Json.orNull (fun n => Json.int n.toInt) i.wordCount),
    ("reading_progress_top_percent", Json.float i.readingProgressTop),
    ("reading_progress_bottom_percent", Json.float i.readingProgressBottom),
    ("saved_at", timeJson i.savedAt),
    ("updated_at", Json.orNull timeJson i.updatedAt),
    ("published_at", Json.orNull timeJson i.publishedAt),
    ("read_at", Json.orNull timeJson i.readAt),
    ("archived_at", Json.orNull timeJson i.archivedAt),
    ("deleted_at", Json.orNull timeJson i.deletedAt)]

def toJson (i : Item) : Json :=
  .object i.members

/-- An item as a record, where the members without a default have none. -/
def record : Record Item where
  title := "LibraryItem"
  blank := { id := "", userId := "", title := "", savedAt := Time.Instant.epoch }
  members :=
    let text := Reader.string
    let textOption := Reader.optional Reader.string
    let texts := Reader.list Reader.string
    let timeOption := Reader.optional timeReader
    [.needed "id" text fun i id => { i with id },
      .needed "user_id" text fun i userId => { i with userId },
      .free "state" ItemState.reader fun i state => { i with state },
      .free "folder" text fun i folder => { i with folder },
      .free "item_type" text fun i itemType => { i with itemType },
      .needed "title" text fun i title => { i with title },
      .free "author" textOption fun i author => { i with author },
      .free "description" textOption fun i description => { i with description },
      .free "note" textOption fun i note => { i with note },
      .free "site_name" textOption fun i siteName => { i with siteName },
      .free "content" text fun i content => { i with content },
      .free "subscription" textOption fun i subscription => { i with subscription },
      .free "item_language" textOption fun i itemLanguage => { i with itemLanguage },
      .free "label_names" texts fun i labelNames => { i with labelNames },
      .free "highlight_labels" texts fun i highlightLabels => { i with highlightLabels },
      .free "highlight_annotations" texts fun i highlightAnnotations =>
        { i with highlightAnnotations },
      .free "recommender_names" texts fun i recommenderNames => { i with recommenderNames },
      .free "word_count" (Reader.optional Reader.int64) fun i wordCount => { i with wordCount },
      .free "reading_progress_top_percent" Reader.float fun i readingProgressTop =>
        { i with readingProgressTop },
      .free "reading_progress_bottom_percent" Reader.float fun i readingProgressBottom =>
        { i with readingProgressBottom },
      .needed "saved_at" timeReader fun i savedAt => { i with savedAt },
      .free "updated_at" timeOption fun i updatedAt => { i with updatedAt },
      .free "published_at" timeOption fun i publishedAt => { i with publishedAt },
      .free "read_at" timeOption fun i readAt => { i with readAt },
      .free "archived_at" timeOption fun i archivedAt => { i with archivedAt },
      .free "deleted_at" timeOption fun i deletedAt => { i with deletedAt }]

end Item

namespace Label

def toJson (l : Label) : Json :=
  .object [("id", .string l.id), ("user_id", .string l.userId), ("name", .string l.name)]

def record : Record Label where
  title := "Label"
  blank := ⟨"", "", ""⟩
  members :=
    [.needed "id" Reader.string fun l id => { l with id },
      .needed "user_id" Reader.string fun l userId => { l with userId },
      .needed "name" Reader.string fun l name => { l with name }]

end Label

namespace LabelLink

def toJson (l : LabelLink) : Json :=
  .object [("label_id", .string l.labelId), ("library_item_id", .string l.itemId)]

def record : Record LabelLink where
  title := "EntityLabel"
  blank := ⟨"", ""⟩
  members :=
    [.needed "label_id" Reader.string fun l labelId => { l with labelId },
      .needed "library_item_id" Reader.string fun l itemId => { l with itemId }]

def ofJson? (json : Json) : Option LabelLink := do
  let [some labelId, some itemId] ← json.fields? ["label_id", "library_item_id"] | none
  return ⟨← labelId.text?, ← itemId.text?⟩

end LabelLink

namespace Library

def toJson (l : Library) : Json :=
  .object [("items", .array (l.items.map Item.toJson)),
    ("labels", .array (l.labels.map Label.toJson)),
    ("entity_labels", .array (l.links.map LabelLink.toJson))]

def record : Record Library where
  title := "Library"
  blank := {}
  members :=
    [.free "items" (Reader.list Item.record.reader) fun l items => { l with items },
      .free "labels" (Reader.list Label.record.reader) fun l labels => { l with labels },
      .free "entity_labels" (Reader.list LabelLink.record.reader) fun l links =>
        { l with links }]

/-- The library of a snapshot. -/
def ofSnapshot (text : String) : Except Fault Library :=
  record.reader.whole text

def snapshot (l : Library) : String :=
  l.toJson.indented

end Library

namespace Row

/-- The members of the item, and its scores if there are any. -/
def toJson (r : Row) : Json :=
  let scores := Json.object (r.scores.map fun (name, score) => (name, Json.float score))
  .object (r.item.members ++ if r.scores.isEmpty then [] else [("scores", scores)])

end Row

end ReadLater
