import ReadLater.Double.Parts
import ReadLater.Filter.Predicate
import ReadLater.Library.Item

/-!
# Column values

What an item holds in a column, and the order of such values. Integers count as doubles. Values of
different kinds, lists and nulls are not comparable.
-/

namespace ReadLater

inductive Value
  | null
  | text (s : String)
  | number (x : Float)
  | time (t : Time.Instant)
  | list (ss : List String)

namespace Value

def isNull : Value → Bool
  | .null => true
  | _ => false

def text? : Value → Option String
  | .text s => some s
  | _ => none

def compare? : Value → Value → Option Ordering
  | .text a, .text b => some (compareOfLessAndEq a b)
  | .number a, .number b => Double.compare? a b
  | .time a, .time b => some (a.compare b)
  | _, _ => none

def ofText? : Option String → Value
  | some s => .text s
  | none => .null

def ofTime? : Option Time.Instant → Value
  | some t => .time t
  | none => .null

def ofInt (n : Int64) : Value :=
  .number (Float.ofInt n.toInt)

end Value

namespace Item

/-- The texts in an array column. -/
def array (i : Item) : Column → List String
  | .labelNames => i.labelNames
  | .highlightLabels => i.highlightLabels
  | .highlightAnnotations => i.highlightAnnotations
  | .recommenderNames => i.recommenderNames
  | _ => []

def value (i : Item) : Column → Value
  | .id => .text i.id
  | .userId => .text i.userId
  | .state => .text i.state.name
  | .folder => .text i.folder
  | .itemType => .text i.itemType
  | .title => .text i.title
  | .author => .ofText? i.author
  | .description => .ofText? i.description
  | .note => .ofText? i.note
  | .siteName => .ofText? i.siteName
  | .subscription => .ofText? i.subscription
  | .itemLanguage => .ofText? i.itemLanguage
  | .labelNames => .list i.labelNames
  | .highlightLabels => .list i.highlightLabels
  | .highlightAnnotations => .list i.highlightAnnotations
  | .recommenderNames => .list i.recommenderNames
  | .wordCount => (i.wordCount.map Value.ofInt).getD .null
  | .readingProgressTop => .number i.readingProgressTop
  | .readingProgressBottom => .number i.readingProgressBottom
  | .savedAt => .time i.savedAt
  | .updatedAt => .ofTime? i.updatedAt
  | .publishedAt => .ofTime? i.publishedAt
  | .readAt => .ofTime? i.readAt
  | .archivedAt => .ofTime? i.archivedAt
  | .deletedAt => .ofTime? i.deletedAt

/-- The text behind a full-text index. -/
def document? (i : Item) : TextIndex → Option String
  | .search => some (i.title ++ " " ++ i.content)
  | .column c => (i.value c).text?

end Item

end ReadLater
