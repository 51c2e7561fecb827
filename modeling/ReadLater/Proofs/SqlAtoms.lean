import ReadLater.Proofs.SqlPredicates
import ReadLater.Proofs.SqlReader

/-!
# Reading tests in SQL

What the atoms of a formula say about an item. Two of them are no tests by themselves: that a column
is empty, and that a time is not before some days ago, only stand beside a test for null.
-/

namespace ReadLater.Sql

inductive Atom
  | test (c : Condition)
  | empty (c : Column)
  | since (c : Column) (days : Int64)
deriving DecidableEq

def column? (t : String) : Option Column :=
  Column.all.find? fun c => column c == t

def textIndex? (t : String) : Option TextIndex :=
  if t = textIndex .search then some .search
  else
    match t.toList.reverse with
    | 'v' :: 's' :: 't' :: '_' :: rest => (column? (String.ofList rest.reverse)).map .column
    | _ => none

def parameter? (t : String) : Option String :=
  match t.toList with
  | ':' :: name => some (String.ofList name)
  | _ => none

def integer? (t : String) : Option Int64 :=
  Text.signed? t.toList

def comparand? (t : String) : Option Comparand :=
  match parameter? t with
  | some name => some (.parameter name)
  | none => (integer? t).map .constant

def comparison? (t : String) : Option Comparison :=
  [Comparison.less, .lessOrEqual, .greater, .greaterOrEqual].find? fun o => comparison o == t

/-- The number of days of a quoted interval. -/
def days? (t : String) : Option Int64 := do
  let (number, unit) ← Text.splitOnce? ' ' (t.toList.drop 1)
  if unit = "days'".toList then Text.signed? number else none

@[simp] lemma column?_column (c : Column) : column? (column c) = some c := by
  have hall : ∀ c ∈ Column.all, column? (column c) = some c := by decide +kernel
  exact hall c (by cases c <;> decide)

lemma column_ne {t : String} (h : column? t = none) (c : Column) : column c ≠ t := by
  rintro rfl
  simp at h

@[simp] lemma column?_textIndex (i : TextIndex) : column? (textIndex i) = none := by
  have hindex : (textIndex i).toList.getLast? = some 'v' := by
    cases i <;> simp [textIndex, table]
  have hname : ∀ c : Column, c.name.toList.getLast?.or (some '.') ≠ some 'v' := by
    intro c
    cases c <;> decide
  refine List.find?_eq_none.mpr fun c _ hc => hname c ?_
  rw [← hindex, ← eq_of_beq hc]
  simp [column, List.getLast?_append, List.getLast?_cons]

@[simp] lemma textIndex?_textIndex (i : TextIndex) : textIndex? (textIndex i) = some i := by
  cases i with
  | search => decide
  | column c =>
    have hsearch : textIndex (.column c) ≠ textIndex .search := by
      intro h
      have hsplit : textIndex .search = "library_item.search" ++ "_tsv" := by decide
      have hcolumn : column c = "library_item.search" :=
        (String.append_left_inj "_tsv").mp (h.trans hsplit)
      exact column_ne (by decide) c hcolumn
    have hchars : (textIndex (.column c)).toList.reverse =
        'v' :: 's' :: 't' :: '_' :: (column c).toList.reverse := by
      simp [textIndex]
    simp [textIndex?, hsearch, hchars]

@[simp] lemma parameter?_parameter (name : String) : parameter? (parameter name) = some name := by
  simp [parameter?, parameter]

@[simp] lemma parameter?_column (c : Column) : parameter? (column c) = none := by
  simp [parameter?, column, table]

@[simp] lemma parameter?_integer (n : Int64) : parameter? (integer n) = none := by
  obtain ⟨d, ds, hcons, hdigit⟩ := Text.exists_decimal_cons n.toInt.natAbs
  have hne : d ≠ ':' := by
    rintro rfl
    exact absurd hdigit (by decide)
  unfold parameter? integer Text.decimalInt
  rw [String.toList_ofList, hcons]
  split_ifs <;> simp [hne]

@[simp] lemma integer?_integer (n : Int64) : integer? (integer n) = some n := by
  rw [integer?, integer, String.toList_ofList, Text.signed?_decimalInt]

@[simp] lemma comparand?_comparand (c : Comparand) : comparand? (comparand c) = some c := by
  cases c <;> simp [comparand?, comparand]

@[simp] lemma comparison?_comparison (o : Comparison) : comparison? (comparison o) = some o := by
  cases o <;> decide

@[simp] lemma days?_interval (n : Int64) : days? (interval n) = some n := by
  have hchars : (interval n).toList.drop 1 = Text.decimalInt n.toInt ++ ' ' :: "days'".toList := by
    simp [interval, integer]
  have hblank : ' ' ∉ Text.decimalInt n.toInt := by
    intro hmem
    rcases Text.eq_minus_or_isAsciiDigit_of_mem_decimalInt hmem with hminus | hdigit
    · exact absurd hminus (by decide)
    · exact absurd hdigit (by decide)
  simp [days?, hchars, Text.splitOnce?_of_notMem hblank, Text.signed?_decimalInt]

/-- The tokens after those that must come first. -/
def expect? : List String → List String → Option (List String)
  | [], ts => some ts
  | e :: es, t :: ts => if e = t then expect? es ts else none
  | _ :: _, [] => none

/-- Columns with commas between them up to a closing parenthesis, and what follows it. -/
def columns? : List String → Option (List Column × List String)
  | [] => none
  | t :: ts =>
    if t = ")" then some ([], ts)
    else if t = "," then columns? ts
    else do
      let c ← column? t
      let (cs, ts) ← columns? ts
      return (c :: cs, ts)

/-- One or several array columns, and what follows them. -/
def arrays? : List String → Option (List Column × List String)
  | [] => none
  | t :: ts =>
    match column? t with
    | some c => some ([c], ts)
    | none => (expect? ["array_cat", "("] (t :: ts)).bind columns?

def textMatch? (i : TextIndex) (ts : List String) : Option Atom := do
  let ts ← expect? ["@@", "websearch_to_tsquery", "(", "'english'", ","] ts
  let [query, ")"] := ts | none
  let name ← parameter? query
  return .test (.textMatch i name)

/-- What follows `LOWER`. -/
def lowered? (ts : List String) : Option Atom := do
  let t :: ts ← expect? ["("] ts | none
  let ts ← expect? [")", "="] ts
  match parameter? t with
  | some name =>
    let (cs, ts) ← (expect? ["ANY", "(", "LOWER", "("] ts).bind arrays?
    let [] ← expect? ["::text", ")", "::text", "[", "]", ")"] ts | none
    return .test (.anyEquals cs name)
  | none =>
    let c ← column? t
    let [value] := ts | none
    let name ← parameter? value
    return .test (.equalsIgnoringCase c name)

/-- What follows `EXISTS`. -/
def exists? (ts : List String) : Option Atom := do
  let (cs, ts) ← (expect? ["(", "SELECT", "1", "FROM", "unnest", "("] ts).bind arrays?
  let [pattern, ")"] ← expect? [")", "AS", "element", "WHERE", "element", "ILIKE"] ts | none
  let name ← parameter? pattern
  return .test (.anyLike cs name)

/-- What follows `cardinality`. -/
def cardinality? (ts : List String) : Option Atom := do
  let t :: ts ← expect? ["("] ts | none
  let c ← column? t
  let [op, "0"] ← expect? [")"] ts | none
  if op = ">" then return .test (.notEmpty c)
  else if op = "=" then return .empty c
  else none

/-- A column and one operand. -/
def binary? (c : Column) (op value : String) : Option Atom :=
  if op = "IS" then if value = "NULL" then some (.test (.isNull c)) else none
  else if op = "ILIKE" then (parameter? value).map fun name => .test (.iLike c name)
  else if op = "=" then
    if value = "''" then some (.empty c)
    else (parameter? value).map fun name => .test (.equals c name)
  else if op = "<>" then
    if value = "''" then some (.test (.notEmpty c))
    else (parameter? value).map fun name => .test (.notEquals c name)
  else do
    let op ← comparison? op
    let value ← comparand? value
    return .test (.compare c op value)

/-- What follows a column. -/
def columnTest? (c : Column) : List String → Option Atom
  | [op, value] => binary? c op value
  | ["IS", "NOT", "NULL"] => some (.test (.isNotNull c))
  | ["BETWEEN", low, "AND", high] => do
    let low ← comparand? low
    let high ← comparand? high
    return .test (.between c low high)
  | ["=", "ANY", "(", values, ")"] => (parameter? values).map fun name => .test (.inList c name)
  | [">=", "NOW", "(", ")", "-", "INTERVAL", interval] => (days? interval).map (.since c)
  | _ => none

def atom? : List String → Option Atom
  | [] => none
  | t :: ts =>
    if t = "LOWER" then lowered? ts
    else if t = "EXISTS" then exists? ts
    else if t = "cardinality" then cardinality? ts
    else
      match column? t with
      | some c => columnTest? c ts
      | none => (textIndex? t).bind fun i => textMatch? i ts

def Formula.atom? : Formula → Option Atom
  | .atom ts => Sql.atom? ts
  | _ => none

/-- The single test that a test for null is together with one for emptiness. -/
def isEmpty? : Option Atom → Option Atom → Option Condition
  | some (.test (.isNull c)), some (.empty d) => if c = d then some (.isEmpty c) else none
  | _, _ => none

/-- The single test that a set time is together with its distance from now. -/
def withinDays? : Option Atom → Option Atom → Option Condition
  | some (.test (.isNotNull c)), some (.since d days) =>
    if c = d then some (.withinDays c days) else none
  | _, _ => none

/-- The predicate that a formula is, if its atoms are tests alone or in pairs. -/
def Formula.predicate? : Formula → Option Predicate
  | .atom ts =>
    match Sql.atom? ts with
    | some (.test c) => some (.test c)
    | _ => none
  | .not inner => inner.predicate?.map .not
  | .and left right =>
    match withinDays? left.atom? right.atom? with
    | some c => some (.test c)
    | none => do return .and (← left.predicate?) (← right.predicate?)
  | .or left right =>
    match isEmpty? left.atom? right.atom? with
    | some c => some (.test c)
    | none => do return .or (← left.predicate?) (← right.predicate?)

lemma columns?_intersperse (cs : List Column) (ts : List String) :
    columns? ((cs.map column).intersperse "," ++ ")" :: ts) = some (cs, ts) := by
  have hclosing : ∀ c, column c ≠ ")" := column_ne (by decide)
  have hcomma : ∀ c, column c ≠ "," := column_ne (by decide)
  induction cs with
  | nil => simp [columns?]
  | cons c cs ih =>
    cases cs with
    | nil => simp [columns?, hclosing, hcomma]
    | cons d cs =>
      change columns? (column c :: "," :: (((d :: cs).map column).intersperse "," ++ ")" :: ts)) = _
      rw [List.map_cons] at ih ⊢
      simp [columns?, hclosing, hcomma, ih]

lemma arrays?_arrayTokens (cs : List Column) (ts : List String) :
    arrays? (arrayTokens cs ++ ts) = some (cs, ts) := by
  obtain ⟨c, rfl⟩ | ⟨-, htokens⟩ := arrays_cases cs
  · simp [arrayTokens, arrays?]
  · have hcat : column? "array_cat" = none := by decide
    have hcolumns := columns?_intersperse cs ts
    simp [htokens, arrays?, hcat, expect?, hcolumns]

lemma atom?_column (c : Column) (ts : List String) : atom? (column c :: ts) = columnTest? c ts := by
  have hlower := column_ne (show column? "LOWER" = none by decide) c
  have hexists := column_ne (show column? "EXISTS" = none by decide) c
  have hcardinality := column_ne (show column? "cardinality" = none by decide) c
  simp [atom?, hlower, hexists, hcardinality]

lemma atom?_textIndex (i : TextIndex) (ts : List String) :
    atom? (textIndex i :: ts) = textMatch? i ts := by
  have hne : ∀ t, textIndex? t = none → textIndex i ≠ t := by
    rintro _ h rfl
    simp at h
  have hlower := hne "LOWER" (by decide)
  have hexists := hne "EXISTS" (by decide)
  have hcardinality := hne "cardinality" (by decide)
  simp [atom?, hlower, hexists, hcardinality]

lemma parameter_ne_blank (name : String) : parameter name ≠ "''" := by
  intro h
  have hblank : parameter? "''" = none := by decide
  rw [← h, parameter?_parameter] at hblank
  cases hblank

/-- The test stands as a pair of atoms. -/
def isPair : Condition → Bool
  | .isEmpty _ | .withinDays .. => true
  | _ => false

lemma atom?_emptyTokens (c : Column) : atom? (emptyTokens c) = some (.empty c) := by
  unfold emptyTokens
  split_ifs
  · simp [atom?, cardinality?, expect?]
  · simp [atom?_column, columnTest?, binary?]

lemma atom?_sinceTokens (c : Column) (days : Int64) :
    atom? (sinceTokens c days) = some (.since c days) := by
  simp [sinceTokens, atom?_column, columnTest?]

lemma atom?_conditionTokens {c : Condition} (h : isPair c = false) :
    atom? (conditionTokens c) = some (.test c) := by
  cases c with
  | textMatch index query => simp [conditionTokens, atom?_textIndex, textMatch?, expect?]
  | iLike c name => simp [conditionTokens, atom?_column, columnTest?, binary?]
  | equals c name | notEquals c name =>
    simp [conditionTokens, atom?_column, columnTest?, binary?, parameter_ne_blank]
  | equalsIgnoringCase c name => simp [conditionTokens, atom?, lowered?, expect?]
  | compare c op value =>
    have hop : comparison op ≠ "IS" ∧ comparison op ≠ "ILIKE" ∧ comparison op ≠ "=" ∧
        comparison op ≠ "<>" := by cases op <;> decide
    simp [conditionTokens, atom?_column, columnTest?, binary?, hop]
  | between c low high => simp [conditionTokens, atom?_column, columnTest?]
  | anyEquals cs name => simp [conditionTokens, atom?, lowered?, expect?, arrays?_arrayTokens]
  | anyLike cs name => simp [conditionTokens, atom?, exists?, expect?, arrays?_arrayTokens]
  | inList c name => simp [conditionTokens, atom?_column, columnTest?]
  | isNull c => simp [conditionTokens, nullTokens, atom?_column, columnTest?, binary?]
  | isNotNull c => simp [conditionTokens, setTokens, atom?_column, columnTest?]
  | notEmpty c =>
    rw [conditionTokens]
    split_ifs
    · simp [atom?, cardinality?, expect?]
    · simp [atom?_column, columnTest?, binary?]
  | isEmpty | withinDays => cases h

end ReadLater.Sql
