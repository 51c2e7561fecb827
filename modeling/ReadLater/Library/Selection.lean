import ReadLater.Filter.Sort
import ReadLater.Library.Basic
import ReadLater.Library.Evaluation

/-!
# Selecting items

A selection is a window of the items that pass a filter, in the order of its sort directives. Items
that no directive tells apart stay in storage order.
-/

namespace ReadLater

structure Selection where
  filter : Filter
  ranks : List RankColumn
  sort : List SortDirective
  offset : Nat
  limit : Nat

/-- An item with its relevances by name, ordered by name. -/
structure Row where
  item : Item
  scores : List (String × Float)

/-- Sets a score in a list ordered by name. -/
def setScore (name : String) (score : Float) : List (String × Float) → List (String × Float)
  | [] => [(name, score)]
  | (key, old) :: rest =>
    if name < key then (name, score) :: (key, old) :: rest
    else if name = key then (name, score) :: rest
    else (key, old) :: setScore name score rest

def RankColumn.score (c : RankColumn) (ps : Parameters) (i : Item) : Except StoreError Float := do
  let text ← ps.text c.query
  return ((i.document? c.index).map (FullText.Query.parse text).rank).getD 0.0

/-- The scores of an item under several rank columns, the last one with a name counting. -/
def scoresOf (ps : Parameters) (i : Item) (columns : List RankColumn) :
    Except StoreError (List (String × Float)) :=
  columns.foldlM (fun scores c => do return setScore c.name (← c.score ps i) scores) []

/-- What a directive compares rows by. -/
def Row.key (r : Row) (key : String) : Value :=
  match Column.ofName? key with
  | some c => r.item.value c
  | none => ((r.scores.find? fun s => s.1 == key).map fun s => Value.number s.2).getD .null

namespace SortDirective

/-- The order of two rows; the place of nulls does not depend on the direction. -/
def compare (d : SortDirective) (a b : Row) : Ordering :=
  let x := a.key d.key
  let y := b.key d.key
  match x.isNull, y.isNull with
  | true, true => .eq
  | true, false => if d.nulls = .first then .lt else .gt
  | false, true => if d.nulls = .first then .gt else .lt
  | false, false =>
    let o := (x.compare? y).getD .eq
    match d.direction with
    | .ascending => o
    | .descending => o.swap

end SortDirective

/-- The order of two rows by the first directive that tells them apart. -/
def compareRows (sort : List SortDirective) (a b : Row) : Ordering :=
  match sort with
  | [] => .eq
  | d :: rest => (d.compare a b).then (compareRows rest a b)

namespace Selection

/-- The first directive that names neither a column nor a rank column. -/
def unknownKey? (s : Selection) : Option String :=
  (s.sort.find? fun d =>
    (Column.ofName? d.key).isNone && !s.ranks.any fun c => c.name == d.key).map (·.key)

end Selection

namespace Library

/-- The items that pass a filter, in storage order. -/
def matching (l : Library) (now : Time.Instant) (f : Filter) : Except StoreError (List Item) :=
  l.items.filterM (f.accepts now)

def count (l : Library) (now : Time.Instant) (f : Filter) : Except StoreError Nat := do
  return (← l.matching now f).length

def matchingIds (l : Library) (now : Time.Instant) (f : Filter) :
    Except StoreError (List String) := do
  return (← l.matching now f).map (·.id)

/-- The rows of a selection, in its order. The order is meant for rows without a NaN: around one the
directives give no order, and how such rows are placed stands for nothing. -/
def select (l : Library) (now : Time.Instant) (s : Selection) : Except StoreError (List Row) := do
  let items ← l.matching now s.filter
  let rows ← items.mapM fun i => do
    return (⟨i, ← scoresOf s.filter.parameters i s.ranks⟩ : Row)
  match s.unknownKey? with
  | some key => throw (.noSuchColumn key)
  | none =>
    let sorted := rows.mergeSort fun a b => compareRows s.sort a b != .gt
    return (sorted.drop s.offset).take s.limit

end Library

end ReadLater
