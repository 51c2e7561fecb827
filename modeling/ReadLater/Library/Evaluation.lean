import ReadLater.FullText.Pattern
import ReadLater.FullText.Query
import ReadLater.Library.Value

/-!
# Truth of a predicate

A predicate is true, false or unknown of an item. A comparison with a null is unknown, and the
connectives are those of three-valued logic.
-/

namespace ReadLater

/-- True, false, or none for unknown. -/
abbrev Truth := Option Bool

namespace Truth

def and : Truth → Truth → Truth
  | some false, _ => some false
  | _, some false => some false
  | some true, some true => some true
  | _, _ => none

def or : Truth → Truth → Truth
  | some true, _ => some true
  | _, some true => some true
  | some false, some false => some false
  | _, _ => none

def not : Truth → Truth :=
  Option.map Bool.not

/-- A conjunction is worth the side that is less true. -/
theorem and_cases : ∀ t u : Truth,
    t = some true ∧ t.and u = u ∨ u = some true ∧ t.and u = t ∨
      t = none ∧ u = none ∧ t.and u = none ∨ t.and u = some false
  | some true, none | some true, some false | some true, some true => .inl ⟨rfl, rfl⟩
  | none, some true | some false, some true => .inr (.inl ⟨rfl, rfl⟩)
  | none, none => .inr (.inr (.inl ⟨rfl, rfl, rfl⟩))
  | some false, none | some false, some false | none, some false => .inr (.inr (.inr rfl))

theorem not_or : ∀ t u : Truth, (t.or u).not = t.not.and u.not
  | none, none | none, some false | none, some true => rfl
  | some false, none | some false, some false | some false, some true => rfl
  | some true, none | some true, some false | some true, some true => rfl

theorem eq_none_of_not {t : Truth} (h : t.not = none) : t = none :=
  Option.map_eq_none_iff.mp h

theorem eq_none_of_and {t u : Truth} (h : t.and u = none) : t = none ∨ u = none := by
  rcases and_cases t u with ⟨-, hand⟩ | ⟨-, hand⟩ | ⟨ht, -, -⟩ | hand
  · exact .inr (hand.symm.trans h)
  · exact .inl (hand.symm.trans h)
  · exact .inl ht
  · cases hand.symm.trans h

theorem eq_none_of_or {t u : Truth} (h : t.or u = none) : t = none ∨ u = none := by
  have hnot : t.not.and u.not = none := by rw [← not_or, h, not, Option.map_none]
  exact (eq_none_of_and hnot).imp eq_none_of_not eq_none_of_not

theorem eq_true_of_and {t u : Truth} (h : t.and u = some true) : t = some true ∧ u = some true := by
  rcases and_cases t u with ⟨ht, hand⟩ | ⟨hu, hand⟩ | ⟨-, -, hand⟩ | hand
  · exact ⟨ht, hand.symm.trans h⟩
  · exact ⟨hand.symm.trans h, hu⟩
  · cases hand.symm.trans h
  · cases hand.symm.trans h

end Truth

/-- What a library cannot evaluate. -/
inductive StoreError
  | unbound (name : String)
  | wrongType (name : String)
  | noSuchColumn (key : String)
deriving DecidableEq, Repr

def StoreError.message : StoreError → String
  | .unbound name => "unbound parameter :" ++ name
  | .wrongType name => "parameter :" ++ name ++ " has the wrong type"
  | .noSuchColumn key => "column \"" ++ key ++ "\" does not exist"

namespace Parameters

def text (ps : Parameters) (name : String) : Except StoreError String :=
  match ps.get? name with
  | some (.text s) => .ok s
  | some _ => .error (.wrongType name)
  | none => .error (.unbound name)

def list (ps : Parameters) (name : String) : Except StoreError (List String) :=
  match ps.get? name with
  | some (.list ss) => .ok ss
  | some _ => .error (.wrongType name)
  | none => .error (.unbound name)

def comparand (ps : Parameters) : Comparand → Except StoreError Value
  | .constant n => .ok (.ofInt n)
  | .parameter name =>
    match ps.get? name with
    | some (.int n) => .ok (.ofInt n)
    | some (.time t) => .ok (.time t)
    | some (.text s) => .ok (.text s)
    | some (.list _) => .error (.wrongType name)
    | none => .error (.unbound name)

end Parameters

def Comparison.holds (c : Comparison) (o : Ordering) : Bool :=
  match c with
  | .less => o == .lt
  | .lessOrEqual => o != .gt
  | .greater => o == .gt
  | .greaterOrEqual => o != .lt

/-- Equality in any letter case. -/
def equalsIgnoringCase (a b : String) : Bool :=
  Text.lower a == Text.lower b

/-- The elements of several array columns together. -/
def Item.arrays (i : Item) (columns : List Column) : List String :=
  columns.flatMap i.array

namespace Condition

/-- The start of the window of days that ends now. -/
def cutoff (now : Time.Instant) (days : Int64) : Time.Instant :=
  now.addDays (-days.toInt)

def truth (ps : Parameters) (now : Time.Instant) (i : Item) :
    Condition → Except StoreError Truth
  | .textMatch index query => do
    let text ← ps.text query
    return (i.document? index).map (FullText.Query.parse text).holds
  | .iLike column pattern => do
    let pattern ← ps.text pattern
    return (i.value column).text?.map fun v => FullText.iLike v pattern
  | .equalsIgnoringCase column value => do
    let value ← ps.text value
    return (i.value column).text?.map fun v => ReadLater.equalsIgnoringCase v value
  | .equals column value => do
    let value ← ps.text value
    return (i.value column).text?.map (· == value)
  | .notEquals column value => do
    let value ← ps.text value
    return (i.value column).text?.map (· != value)
  | .compare column comparison value => do
    let right ← ps.comparand value
    return ((i.value column).compare? right).map comparison.holds
  | .between column low high => do
    let low ← ps.comparand low
    let high ← ps.comparand high
    return do
      let aboveLow ← (i.value column).compare? low
      let belowHigh ← (i.value column).compare? high
      return aboveLow != .lt && belowHigh != .gt
  | .anyEquals columns value => do
    let value ← ps.text value
    return some ((i.arrays columns).any fun e => ReadLater.equalsIgnoringCase e value)
  | .anyLike columns pattern => do
    let pattern ← ps.text pattern
    return some ((i.arrays columns).any fun e => FullText.iLike e pattern)
  | .inList column values => do
    let values ← ps.list values
    return (i.value column).text?.map fun v => values.contains v
  | .isNull column => .ok (some (i.value column).isNull)
  | .isNotNull column => .ok (some (!(i.value column).isNull))
  | .notEmpty column => .ok <|
    match i.value column with
    | .null => none
    | .text s => some (s != "")
    | .list ss => some (!ss.isEmpty)
    | _ => some true
  | .isEmpty column => .ok <|
    match i.value column with
    | .null => some true
    | .text s => some (s == "")
    | .list ss => some ss.isEmpty
    | _ => some false
  | .withinDays column days => .ok <| some <|
    match (i.value column).compare? (.time (cutoff now days)) with
    | some o => o != .lt
    | none => false

end Condition

namespace Predicate

/-- Both sides of a connective are evaluated, the left one first. -/
def truth (ps : Parameters) (now : Time.Instant) (i : Item) : Predicate → Except StoreError Truth
  | .test c => c.truth ps now i
  | .and left right => do
    let l ← left.truth ps now i
    let r ← right.truth ps now i
    return l.and r
  | .or left right => do
    let l ← left.truth ps now i
    let r ← right.truth ps now i
    return l.or r
  | .not inner => do
    let t ← inner.truth ps now i
    return t.not
  | .group inner => inner.truth ps now i

end Predicate

/-- An item passes when the predicate is true of it. -/
def Filter.accepts (f : Filter) (now : Time.Instant) (i : Item) : Except StoreError Bool :=
  match f.predicate with
  | none => .ok true
  | some p => do
    let t ← p.truth f.parameters now i
    return t == some true

end ReadLater
