import ReadLater.Filter.Predicate
import ReadLater.Filter.Sort
import ReadLater.Text.Join

/-!
# Predicates in SQL

The text of predicates, rank columns and orders in the dialect of PostgreSQL. A bound value stands
as `:name`. Operands of a connective that are connectives themselves stand in parentheses, so that
the text reads back as the predicate under any precedence.
-/

namespace ReadLater.Sql

def table : String := "library_item"

def column (c : Column) : String :=
  table ++ "." ++ c.name

def parameter (name : String) : String :=
  ":" ++ name

def comparison : Comparison → String
  | .less => "<"
  | .lessOrEqual => "<="
  | .greater => ">"
  | .greaterOrEqual => ">="

def integer (n : Int64) : String :=
  String.ofList (Text.decimalInt n.toInt)

def comparand : Comparand → String
  | .parameter name => parameter name
  | .constant n => integer n

def textIndex : TextIndex → String
  | .search => table ++ ".search_tsv"
  | .column c => column c ++ "_tsv"

def textQuery (name : String) : String :=
  "websearch_to_tsquery('english', " ++ parameter name ++ ")"

/-- The elements of one or several array columns. -/
def arrays : List Column → String
  | [c] => column c
  | cs => "array_cat(" ++ Text.join ", " (cs.map column) ++ ")"

def condition : Condition → String
  | .textMatch index query => textIndex index ++ " @@ " ++ textQuery query
  | .iLike c pattern => column c ++ " ILIKE " ++ parameter pattern
  | .equalsIgnoringCase c value => "LOWER(" ++ column c ++ ") = " ++ parameter value
  | .equals c value => column c ++ " = " ++ parameter value
  | .notEquals c value => column c ++ " <> " ++ parameter value
  | .compare c op value => column c ++ " " ++ comparison op ++ " " ++ comparand value
  | .between c low high => column c ++ " BETWEEN " ++ comparand low ++ " AND " ++ comparand high
  | .anyEquals cs value =>
    "LOWER(" ++ parameter value ++ ") = ANY(LOWER(" ++ arrays cs ++ "::text)::text[])"
  | .anyLike cs pattern =>
    "EXISTS (SELECT 1 FROM unnest(" ++ arrays cs ++ ") AS element WHERE element ILIKE " ++
      parameter pattern ++ ")"
  | .inList c values => column c ++ " = ANY(" ++ parameter values ++ ")"
  | .isNull c => column c ++ " IS NULL"
  | .isNotNull c => column c ++ " IS NOT NULL"
  | .notEmpty c =>
    if c.isArray then "cardinality(" ++ column c ++ ") > 0" else column c ++ " <> ''"
  | .isEmpty c =>
    let empty :=
      if c.isArray then "cardinality(" ++ column c ++ ") = 0" else column c ++ " = ''"
    "(" ++ column c ++ " IS NULL OR " ++ empty ++ ")"
  | .withinDays c days =>
    "(" ++ column c ++ " IS NOT NULL AND " ++ column c ++ " >= NOW() - INTERVAL '" ++
      integer days ++ " days')"

def parenthesized (text : String) : String :=
  "(" ++ text ++ ")"

def isConnective : Predicate → Bool
  | .and .. | .or .. => true
  | _ => false

/-- The text of an operand of a connective, given the text of the operand alone. -/
def asOperand (p : Predicate) (text : String) : String :=
  if isConnective p then parenthesized text else text

def predicate : Predicate → String
  | .test c => condition c
  | .and left right =>
    asOperand left (predicate left) ++ " AND " ++ asOperand right (predicate right)
  | .or left right =>
    asOperand left (predicate left) ++ " OR " ++ asOperand right (predicate right)
  | .not inner => "NOT " ++ parenthesized (predicate inner)
  | .group inner => parenthesized (predicate inner)

/-- The clause of a filter, empty when every item passes. -/
def whereClause (f : Filter) : String :=
  match f.predicate with
  | some p => "WHERE " ++ predicate p
  | none => ""

def rankColumn (c : RankColumn) : String :=
  "ts_rank_cd(" ++ textIndex c.index ++ ", " ++ textQuery c.query ++ ") AS " ++ c.name

def sortKey (key : String) : String :=
  match Column.ofName? key with
  | some c => column c
  | none => key

def sortDirective (d : SortDirective) : String :=
  sortKey d.key ++ " " ++ d.direction.name ++ " " ++ d.nulls.name

/-- The clause of an order, empty when there are no directives. -/
def orderClause (sort : List SortDirective) : String :=
  if sort.isEmpty then "" else "ORDER BY " ++ Text.join ", " (sort.map sortDirective)

end ReadLater.Sql
