import ReadLater.Filter.Contribution
import ReadLater.Query.Parser

/-!
# Compiling queries

A tree is compiled tag by tag in reading order. Tags without a predicate are left out of the
predicate of the tree, so that they force neither side of a connective. Rank directives come before
those of `sort:`, and no two directives have one key.
-/

namespace ReadLater

/-- What the tags have contributed so far. -/
structure Accumulator where
  parameters : Parameters := .empty
  ranks : List RankColumn := []
  sort : List SortDirective := []
  trash : Bool := false
  /-- The number of rank directives in front of `sort`. -/
  ranked : Nat := 0
deriving DecidableEq

namespace Accumulator

def bind (acc : Accumulator) (ps : List Parameter) : Accumulator :=
  { acc with parameters := ⟨acc.parameters.entries ++ ps⟩ }

def hasSort (acc : Accumulator) (key : String) : Bool :=
  acc.sort.any fun d => d.key == key

/-- Adds a rank column and a directive for it after those of the columns before. -/
def addRank (acc : Accumulator) (query : String) : Accumulator :=
  let name := numbered "rank" acc.ranks.length
  let acc' := { acc with ranks := acc.ranks ++ [⟨.search, query, name⟩] }
  if acc.hasSort name then acc'
  else
    { acc' with
      sort := acc.sort.take acc.ranked ++ ⟨name, .descending, .last⟩ :: acc.sort.drop acc.ranked
      ranked := acc.ranked + 1 }

def addSort (acc : Accumulator) (d : SortDirective) : Accumulator :=
  if acc.hasSort d.key then acc else { acc with sort := acc.sort ++ [d] }

/-- Adds a contribution. Only a tag that every match requires opens the trash. -/
def add (acc : Accumulator) (required : Bool) (c : Contribution) : Accumulator :=
  let acc := acc.bind c.parameters
  let acc := match c.ranked with
    | some query => acc.addRank query
    | none => acc
  let acc := match c.sort with
    | some d => acc.addSort d
    | none => acc
  { acc with trash := acc.trash || (required && c.trash) }

end Accumulator

/-- Joins two predicates, where a missing side leaves the other one. -/
def Query.Connective.join (c : Query.Connective) (left right : Option Predicate) :
    Option Predicate :=
  match left, right with
  | some l, some r => some (match c with | .and => .and l r | .or => .or l r)
  | l, none => l
  | none, r => r

/--
The predicate of a tree, and all that was contributed until the end or the first error. `required`
holds while only conjunctions and groups stand above the tree.
-/
def Query.compileInto (options : CompileOptions) (required : Bool) :
    Query → Accumulator → Except QueryError (Option Predicate) × Accumulator
  | .empty, acc => (.ok none, acc)
  | .tag t, acc =>
    match t.contribution options acc.parameters.entries.length with
    | .error e => (.error e, acc)
    | .ok c => (.ok c.predicate, acc.add required c)
  | .logical connective left right, acc =>
    let required := required && connective = .and
    match compileInto options required left acc with
    | (.error e, acc) => (.error e, acc)
    | (.ok l, acc) =>
      match compileInto options required right acc with
      | (.error e, acc) => (.error e, acc)
      | (.ok r, acc) => (.ok (connective.join l r), acc)
  | .negation _ operand, acc =>
    match compileInto options false operand acc with
    | (.error e, acc) => (.error e, acc)
    | (.ok p, acc) => (.ok (p.map .not), acc)
  | .group inner, acc =>
    match compileInto options required inner acc with
    | (.error e, acc) => (.error e, acc)
    | (.ok p, acc) => (.ok (p.map .group), acc)

/-- A compiled query; without a predicate it matches every item. -/
structure Compiled where
  predicate : Option Predicate
  parameters : Parameters
  ranks : List RankColumn
  sort : List SortDirective
  trash : Bool
deriving DecidableEq

def Compiled.filter (c : Compiled) : Filter :=
  ⟨c.predicate, c.parameters⟩

namespace Query

def compile (options : CompileOptions) (q : Query) : Except QueryError Compiled :=
  match q.compileInto options true {} with
  | (.error e, _) => .error e
  | (.ok predicate, acc) => .ok ⟨predicate, acc.parameters, acc.ranks, acc.sort, acc.trash⟩

/-- The text asks for `in:` to restrict to folders. -/
def wantsFolders (text : String) : Bool :=
  Text.containsRun "use:folders".toList text.toList

def compileText (options : CompileOptions) (text : String) : Except QueryError Compiled := do
  let q ← parse text
  q.compile { options with foldersScoped := options.foldersScoped || wantsFolders text }

end Query

end ReadLater
