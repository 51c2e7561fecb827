import ReadLater.Filter.Keyword
import ReadLater.Filter.Predicate
import ReadLater.Filter.Sort
import ReadLater.FullText.Pattern
import ReadLater.Query.Error
import ReadLater.Query.Tree
import ReadLater.Time.Interval

/-!
# Contributions of tags

What one tag adds to a filter. It depends on what was added before only through the number of values
bound so far, which the names of its own parameters go on from.
-/

namespace ReadLater

/-- Inputs of a query besides its text. -/
structure CompileOptions where
  /-- `in:` with the name of a folder also restricts to that folder. -/
  foldersScoped : Bool := false
  /-- The caller's clock, which relative dates refer to. -/
  now : Time.Moment
  weekStart : Time.Weekday := .monday
deriving DecidableEq

structure Contribution where
  predicate : Option Predicate := none
  parameters : List Parameter := []
  /-- The parameter of a full-text query to rank by. -/
  ranked : Option String := none
  sort : Option SortDirective := none
  /-- The tag asks for the trash. -/
  trash : Bool := false
deriving DecidableEq

/-- The operand of a tag: the field as it was written, and the text of the operand without blanks
around it, which is not empty. -/
structure TagOperand where
  field : String
  value : String
  quoted : Bool
deriving DecidableEq, Repr

namespace TagOperand

def invalid (t : TagOperand) : QueryError :=
  .invalidKeyword t.field t.value

def missing (t : TagOperand) : QueryError :=
  .missingOperand t.field

def lowered (t : TagOperand) : String :=
  Text.lower t.value

/-- The pieces between commas without blanks around them, the empty ones left out. -/
def pieces (t : TagOperand) : List String :=
  ((Text.splitBy (· == ',') t.value.toList).map fun cs => Text.trim (String.ofList cs)).filter
    fun s => s != ""

end TagOperand

namespace Contribution

/-- A single bound value and the test that names it. -/
def ofValue (bound : Nat) (stem : String) (value : ParameterValue)
    (test : String → Condition) : Contribution :=
  let name := numbered stem bound
  { predicate := some (.test (test name)), parameters := [⟨name, value⟩] }

def ofTest (test : Condition) : Contribution :=
  { predicate := some (.test test) }

end Contribution

namespace TagOperand

/-- Free text is matched with title and content, and ranked. A quoted text stays a phrase. -/
def freeText (t : TagOperand) (bound : Nat) : Contribution :=
  let text := if t.quoted then "\"" ++ t.value ++ "\"" else t.value
  { Contribution.ofValue bound "implicit" (.text text) (.textMatch .search) with
    ranked := some (numbered "implicit" bound) }

/-- Days for which a deleted item stays in the trash. -/
def trashDays : Int64 := 14

def inPlace (t : TagOperand) (foldersScoped : Bool) (bound : Nat) : Contribution :=
  if t.lowered = "all" then {}
  else if t.lowered = "archive" then Contribution.ofTest (.isNotNull .archivedAt)
  else if t.lowered = "trash" then
    { Contribution.ofTest (.withinDays .deletedAt trashDays) with trash := true }
  else if foldersScoped then
    let name := numbered "in" bound
    { predicate := some (.and (.test (.isNull .archivedAt)) (.test (.equals .folder name)))
      parameters := [⟨name, .text t.value⟩] }
  else Contribution.ofTest (.isNull .archivedAt)

/-- An item read further than this percentage counts as read. -/
def readThreshold : Int64 := 98

/-- An item read less far than this percentage counts as unread. -/
def unreadThreshold : Int64 := 2

def isProgress (t : TagOperand) : Except QueryError Contribution :=
  if t.lowered = "read" then
    .ok (.ofTest (.compare .readingProgressBottom .greater (.constant readThreshold)))
  else if t.lowered = "reading" then
    .ok (.ofTest (.between .readingProgressBottom (.constant unreadThreshold)
      (.constant readThreshold)))
  else if t.lowered = "unread" then
    .ok (.ofTest (.compare .readingProgressBottom .less (.constant unreadThreshold)))
  else .error t.invalid

def has (t : TagOperand) : Except QueryError Contribution :=
  if t.lowered = "highlights" then .ok (.ofTest (.notEmpty .highlightAnnotations))
  else if t.lowered = "labels" then .ok (.ofTest (.notEmpty .labelNames))
  else if t.lowered = "subscriptions" then .ok (.ofTest (.notEmpty .subscription))
  else .error t.invalid

def no (t : TagOperand) : Except QueryError Contribution :=
  if t.lowered = "highlight" then .ok (.ofTest (.isEmpty .highlightAnnotations))
  else if t.lowered = "label" then .ok (.ofTest (.isEmpty .labelNames))
  else if t.lowered = "subscription" then .ok (.ofTest (.isEmpty .subscription))
  else .error t.invalid

/-- Equality with the value in any letter case. -/
def term (t : TagOperand) (stem : String) (column : Column) (bound : Nat) : Contribution :=
  Contribution.ofValue bound stem (.text t.lowered) (.equalsIgnoringCase column)

/-- A match of words, or of a part of a word that the index does not find. -/
def wording (t : TagOperand) (stem : String) (column : Column) (bound : Nat) : Contribution :=
  let query := numbered stem bound
  let pattern := numbered stem (bound + 1)
  let escaped := String.ofList (FullText.escapePattern t.lowered.toList)
  { predicate := some (.group (.or (.test (.textMatch (.column column) query))
      (.test (.iLike column pattern))))
    parameters := [⟨query, .text t.lowered⟩, ⟨pattern, .text ("%" ++ escaped ++ "%")⟩] }

/-- A pattern in which stars stand for any run of characters. -/
def starPattern (label : String) : String :=
  String.ofList ((FullText.escapePattern label.toList).map fun c => if c = '*' then '%' else c)

/-- The test of one label and the value that it binds. -/
def labelTest (name label : String) : Condition × ParameterValue :=
  if label.toList.contains '*' then (.anyLike Column.labelSet name, .text (starPattern label))
  else (.anyEquals Column.labelSet name, .text label)

/-- Adds the remaining labels to a test of any of the labels before them. -/
def anyLabel (bound : Nat) (test : Predicate) (parameters : List Parameter) :
    List String → Contribution
  | [] => { predicate := some (.group test), parameters }
  | label :: rest =>
    let name := numbered "label" bound
    let (next, value) := labelTest name label
    anyLabel (bound + 1) (.or test (.test next)) (parameters ++ [⟨name, value⟩]) rest

def label (t : TagOperand) (bound : Nat) : Except QueryError Contribution :=
  match t.pieces.map Text.lower with
  | [] => .error t.missing
  | first :: rest =>
    let name := numbered "label" bound
    let (test, value) := labelTest name first
    .ok (anyLabel (bound + 1) (.test test) [⟨name, value⟩] rest)

def includes (t : TagOperand) (bound : Nat) : Except QueryError Contribution :=
  if t.pieces.isEmpty then .error t.missing
  else .ok (.ofValue bound "includes" (.list t.pieces) (.inList .id))

def recommendedBy (t : TagOperand) (bound : Nat) : Contribution :=
  if t.value = "*" then Contribution.ofTest (.notEmpty .recommenderNames)
  else
    Contribution.ofValue bound "recommended_by" (.text t.lowered)
      (.anyEquals [.recommenderNames])

/-- An interval with both ends included. An open start is the epoch, an open end is now. -/
def date (t : TagOperand) (stem : String) (column : Column) (options : CompileOptions)
    (bound : Nat) : Except QueryError Contribution :=
  match Time.resolve t.value options.now options.weekStart with
  | none => .error (.malformedDate t.field t.value)
  | some interval =>
    let low := numbered (stem ++ "_start") bound
    let high := numbered (stem ++ "_end") (bound + 1)
    .ok
      { predicate := some (.test (.between column (.parameter low) (.parameter high)))
        parameters :=
          [⟨low, .time (interval.start.getD Time.Instant.epoch)⟩,
            ⟨high, .time (interval.stop.getD options.now.instant)⟩] }

/-- Splits a comparison sign from what follows it. -/
def splitComparison? : List Char → Option (Comparison × List Char)
  | '<' :: '=' :: rest => some (.lessOrEqual, rest)
  | '>' :: '=' :: rest => some (.greaterOrEqual, rest)
  | '<' :: rest => some (.less, rest)
  | '>' :: rest => some (.greater, rest)
  | _ => none

def number (t : TagOperand) (stem : String) (column : Column) (bound : Nat) :
    Except QueryError Contribution :=
  match splitComparison? t.value.toList with
  | none => .error (.malformedNumber t.field t.value)
  | some (comparison, rest) =>
    let digits := Text.trimEnd (Text.trimStart rest)
    if digits.isEmpty then .error t.missing
    else
      match Text.signed? digits with
      | none => .error (.malformedNumber t.field t.value)
      | some n =>
        .ok (.ofValue bound stem (.int n) fun name =>
          .compare column comparison (.parameter name))

/-- What a sort key orders by. An unknown key must be a plain identifier, as it stands in the text
of the statement. -/
def sortKey? (key : String) : Option String :=
  if key = "saved" ∨ key = "read" ∨ key = "updated" ∨ key = "published" then some (key ++ "_at")
  else if key = "wordscount" then some Column.wordCount.name
  else if key = "readposition" then some Column.readingProgressBottom.name
  else if key.toList.all fun c => ('a' ≤ c && c ≤ 'z') || Text.isAsciiDigit c || c = '_' then
    some key
  else none

def sort (t : TagOperand) : Except QueryError Contribution :=
  let (key, order) := (Text.splitOnce? '-' t.value.toList).getD (t.value.toList, [])
  let key := Text.lower (Text.trim (String.ofList key))
  let direction :=
    if Text.equalsAsciiCase (Text.trim (String.ofList order)) "asc" then .ascending
    else .descending
  if key = "" then .error t.missing
  else
    match sortKey? key with
    | none => .error t.invalid
    | some key => .ok { sort := some ⟨key, direction, .last⟩ }

end TagOperand

/-- The contribution of a tag with a known field and an operand that is not blank. -/
def Keyword.contribution (k : Keyword) (options : CompileOptions) (bound : Nat) (t : TagOperand) :
    Except QueryError Contribution :=
  match k with
  | .inPlace => .ok (t.inPlace options.foldersScoped bound)
  | .isProgress => t.isProgress
  | .itemType => .ok (t.term "type" .itemType bound)
  | .label => t.label bound
  | .sort => t.sort
  | .has => t.has
  | .no => t.no
  | .saved => t.date "saved" .savedAt options bound
  | .read => t.date "read" .readAt options bound
  | .updated => t.date "updated" .updatedAt options bound
  | .published => t.date "published" .publishedAt options bound
  | .subscription => .ok (t.term "subscription" .subscription bound)
  | .rss => .ok (t.term "rss" .subscription bound)
  | .language => .ok (t.term "language" .itemLanguage bound)
  | .author => .ok (t.wording "author" .author bound)
  | .title => .ok (t.wording "title" .title bound)
  | .description => .ok (t.wording "description" .description bound)
  | .note => .ok (t.wording "note" .note bound)
  | .site => .ok (t.wording "site" .siteName bound)
  | .includes => t.includes bound
  | .recommendedBy => .ok (t.recommendedBy bound)
  | .readPosition => t.number "read_position" .readingProgressBottom bound
  | .wordsCount => t.number "words_count" .wordCount bound
  | .use | .mode => .ok {}

/-- The contribution of a tag after `bound` bound values. A blank operand contributes nothing, but
its field must be known. -/
def Query.Tag.contribution (t : Query.Tag) (options : CompileOptions) (bound : Nat) :
    Except QueryError Contribution :=
  let value := Text.trim t.operand.text
  match t.field with
  | .freeText =>
    if value = "" then .ok {}
    else .ok (TagOperand.freeText ⟨"implicit", value, t.operand.isQuoted⟩ bound)
  | .named field _ =>
    match Keyword.ofName? field with
    | none => .error (.unknownField field)
    | some k =>
      if value = "" then .ok {}
      else k.contribution options bound ⟨field, value, t.operand.isQuoted⟩

end ReadLater
