import ReadLater.Proofs.SqlTokens

/-!
# The tokens of predicates

What the text of a predicate consists of, when the names of its parameters are plain.
-/

namespace ReadLater

/-- The parameters of the predicate have names of small letters, digits and underscores. -/
def Predicate.PlainNames (p : Predicate) : Prop :=
  ∀ name ∈ p.references, name.toList.all Text.isPlain = true

instance (p : Predicate) : Decidable p.PlainNames :=
  inferInstanceAs (Decidable (∀ name ∈ p.references, _))

namespace Sql

def arrayTokens : List Column → List String
  | [c] => [column c]
  | cs => "array_cat" :: "(" :: ((cs.map column).intersperse "," ++ [")"])

def nullTokens (c : Column) : List String :=
  [column c, "IS", "NULL"]

def setTokens (c : Column) : List String :=
  [column c, "IS", "NOT", "NULL"]

def emptyTokens (c : Column) : List String :=
  if c.isArray then ["cardinality", "(", column c, ")", "=", "0"] else [column c, "=", "''"]

/-- The quoted interval of some days. -/
def interval (days : Int64) : String :=
  "'" ++ (integer days ++ " days") ++ "'"

def sinceTokens (c : Column) (days : Int64) : List String :=
  [column c, ">=", "NOW", "(", ")", "-", "INTERVAL", interval days]

def parenthesizedTokens (ts : List String) : List String :=
  "(" :: (ts ++ [")"])

def conditionTokens : Condition → List String
  | .textMatch index query =>
    [textIndex index, "@@", "websearch_to_tsquery", "(", "'english'", ",", parameter query, ")"]
  | .iLike c pattern => [column c, "ILIKE", parameter pattern]
  | .equalsIgnoringCase c value => ["LOWER", "(", column c, ")", "=", parameter value]
  | .equals c value => [column c, "=", parameter value]
  | .notEquals c value => [column c, "<>", parameter value]
  | .compare c op value => [column c, comparison op, comparand value]
  | .between c low high => [column c, "BETWEEN", comparand low, "AND", comparand high]
  | .anyEquals cs value =>
    ["LOWER", "(", parameter value, ")", "=", "ANY", "(", "LOWER", "("] ++
      (arrayTokens cs ++ ["::text", ")", "::text", "[", "]", ")"])
  | .anyLike cs pattern =>
    ["EXISTS", "(", "SELECT", "1", "FROM", "unnest", "("] ++
      (arrayTokens cs ++
        [")", "AS", "element", "WHERE", "element", "ILIKE", parameter pattern, ")"])
  | .inList c values => [column c, "=", "ANY", "(", parameter values, ")"]
  | .isNull c => nullTokens c
  | .isNotNull c => setTokens c
  | .notEmpty c =>
    if c.isArray then ["cardinality", "(", column c, ")", ">", "0"] else [column c, "<>", "''"]
  | .isEmpty c => parenthesizedTokens (nullTokens c ++ "OR" :: emptyTokens c)
  | .withinDays c days => parenthesizedTokens (setTokens c ++ "AND" :: sinceTokens c days)

def operandTokens (p : Predicate) (ts : List String) : List String :=
  if isConnective p then parenthesizedTokens ts else ts

def tokens : Predicate → List String
  | .test c => conditionTokens c
  | .and left right =>
    operandTokens left (tokens left) ++ "AND" :: operandTokens right (tokens right)
  | .or left right =>
    operandTokens left (tokens left) ++ "OR" :: operandTokens right (tokens right)
  | .not inner => "NOT" :: parenthesizedTokens (tokens inner)
  | .group inner => parenthesizedTokens (tokens inner)

lemma tokenizes_comparand {c : Comparand}
    (h : ∀ name ∈ c.references, name.toList.all Text.isPlain = true) :
    Tokenizes (comparand c) [comparand c] := by
  cases c with
  | parameter name => exact tokenizes_parameter (h name List.mem_cons_self)
  | constant n => exact tokenizes_integer n

lemma tokenizes_comparison (o : Comparison) : Tokenizes (comparison o) [comparison o] := by
  cases o <;> decide

lemma tokenizes_join (cs : List Column) :
    Tokenizes (Text.join ", " (cs.map column)) ((cs.map column).intersperse ",") := by
  induction cs with
  | nil => decide
  | cons c cs ih =>
    cases cs with
    | nil => exact tokenizes_column c
    | cons d cs =>
      have hfirst : Completes (column c ++ ", ") ([column c] ++ [","]) :=
        (tokenizes_column c).append_separates (by decide)
      exact hfirst.append_tokenizes ih

lemma completes_arrayCat (cs : List Column) :
    Completes ("array_cat(" ++ Text.join ", " (cs.map column) ++ ")")
      (["array_cat", "("] ++ (cs.map column).intersperse "," ++ [")"]) := by
  have hopen : Completes "array_cat(" ["array_cat", "("] := by decide
  exact (hopen.append_tokenizes (tokenizes_join cs)).append_separates (by decide)

lemma arrays_cases (cs : List Column) :
    (∃ c, cs = [c]) ∨ arrays cs = "array_cat(" ++ Text.join ", " (cs.map column) ++ ")" ∧
      arrayTokens cs = ["array_cat", "("] ++ (cs.map column).intersperse "," ++ [")"] :=
  match cs with
  | [] => .inr ⟨rfl, rfl⟩
  | [c] => .inl ⟨c, rfl⟩
  | _ :: _ :: _ => .inr ⟨rfl, rfl⟩

lemma tokenizes_arrays (cs : List Column) : Tokenizes (arrays cs) (arrayTokens cs) := by
  obtain ⟨c, rfl⟩ | ⟨htext, htokens⟩ := arrays_cases cs
  · exact tokenizes_column c
  · rw [htext, htokens]
    exact (completes_arrayCat cs).tokenizes

lemma completes_cast (cs : List Column) :
    Completes (arrays cs ++ "::text)::text[])")
      (arrayTokens cs ++ ["::text", ")", "::text", "[", "]", ")"]) := by
  have hcast : Completes "::text)::text[])" ["::text", ")", "::text", "[", "]", ")"] := by decide
  obtain ⟨c, rfl⟩ | ⟨htext, htokens⟩ := arrays_cases cs
  · exact completes_cast_of_words (column_ne_empty c) (fun _ => isWord_of_mem_column) hcast
      (by decide)
  · rw [htext, htokens]
    exact (completes_arrayCat cs).append hcast

lemma tokenizes_null (c : Column) : Tokenizes (column c ++ " IS NULL") (nullTokens c) := by
  have htest : Tokenizes " IS NULL" ["IS", "NULL"] := by decide
  exact (tokenizes_column c).append htest (by decide)

lemma tokenizes_set (c : Column) : Tokenizes (column c ++ " IS NOT NULL") (setTokens c) := by
  have htest : Tokenizes " IS NOT NULL" ["IS", "NOT", "NULL"] := by decide
  exact (tokenizes_column c).append htest (by decide)

/-- The text of a test for emptiness, which is no predicate alone. -/
def emptyTest (c : Column) : String :=
  if c.isArray then "cardinality(" ++ column c ++ ") = 0" else column c ++ " = ''"

lemma tokenizes_cardinality (c : Column) {text : String} {ts : List String}
    (h : Tokenizes text ts) (hbreak : Breaks text) :
    Tokenizes ("cardinality(" ++ column c ++ text) ("cardinality" :: "(" :: column c :: ts) := by
  have hopen : Completes "cardinality(" ["cardinality", "("] := by decide
  exact (hopen.append_tokenizes (tokenizes_column c)).append h hbreak

lemma tokenizes_emptyTest (c : Column) : Tokenizes (emptyTest c) (emptyTokens c) := by
  have hzero : Tokenizes ") = 0" [")", "=", "0"] := by decide
  have hblank : Tokenizes " = ''" ["=", "''"] := by decide
  unfold emptyTest emptyTokens
  split_ifs
  · exact tokenizes_cardinality c hzero (by decide)
  · exact (tokenizes_column c).append hblank (by decide)

lemma tokenizes_notEmpty (c : Column) :
    Tokenizes (condition (.notEmpty c)) (conditionTokens (.notEmpty c)) := by
  have hzero : Tokenizes ") > 0" [")", ">", "0"] := by decide
  have hblank : Tokenizes " <> ''" ["<>", "''"] := by decide
  change Tokenizes
    (if c.isArray then "cardinality(" ++ column c ++ ") > 0" else column c ++ " <> ''")
    (if c.isArray then ["cardinality", "(", column c, ")", ">", "0"] else [column c, "<>", "''"])
  split_ifs
  · exact tokenizes_cardinality c hzero (by decide)
  · exact (tokenizes_column c).append hblank (by decide)

lemma quote_notMem_integer (n : Int64) : '\'' ∉ (integer n ++ " days").toList := by
  rw [String.toList_append, List.mem_append, integer, String.toList_ofList]
  rintro (hdigits | hunit)
  · rcases Text.eq_minus_or_isAsciiDigit_of_mem_decimalInt hdigits with hminus | hdigit
    · exact absurd hminus (by decide)
    · exact absurd hdigit (by decide)
  · exact absurd hunit (by decide)

lemma completes_since (c : Column) (days : Int64) :
    Completes (column c ++ " >= NOW() - INTERVAL " ++ interval days) (sinceTokens c days) := by
  have hnow : Separates " >= NOW() - INTERVAL " [">=", "NOW", "(", ")", "-", "INTERVAL"] := by
    decide
  exact ((tokenizes_column c).append_separates hnow).append
    (completes_quoted (quote_notMem_integer days))

variable {text left right middle : String} {ts xs ys zs : List String}

lemma Tokenizes.parenthesized (h : Tokenizes text ts) :
    Completes (parenthesized text) (parenthesizedTokens ts) := by
  have hopen : Completes "(" ["("] := by decide
  exact (hopen.append_tokenizes h).append_separates (by decide)

lemma Tokenizes.around (hl : Tokenizes left xs) (hm : Separates middle ys)
    (hr : Tokenizes right zs) : Tokenizes (left ++ middle ++ right) (xs ++ (ys ++ zs)) := by
  rw [← List.append_assoc]
  exact (hl.append_separates hm).append_tokenizes hr

lemma Tokenizes.and (hl : Tokenizes left xs) (hr : Tokenizes right ys) :
    Tokenizes (left ++ " AND " ++ right) (xs ++ "AND" :: ys) :=
  hl.around (show Separates " AND " ["AND"] by decide) hr

lemma Tokenizes.or (hl : Tokenizes left xs) (hr : Tokenizes right ys) :
    Tokenizes (left ++ " OR " ++ right) (xs ++ "OR" :: ys) :=
  hl.around (show Separates " OR " ["OR"] by decide) hr

lemma isEmpty_eq (c : Column) :
    condition (.isEmpty c) =
      Sql.parenthesized (column c ++ " IS NULL" ++ " OR " ++ emptyTest c) := by
  have hsplit : " IS NULL OR " = " IS NULL" ++ " OR " := by decide
  change "(" ++ column c ++ " IS NULL OR " ++ emptyTest c ++ ")" =
    "(" ++ (column c ++ " IS NULL" ++ " OR " ++ emptyTest c) ++ ")"
  rw [hsplit]
  simp only [String.append_assoc]

lemma withinDays_eq (c : Column) (days : Int64) :
    condition (.withinDays c days) = Sql.parenthesized (column c ++ " IS NOT NULL" ++ " AND " ++
      (column c ++ " >= NOW() - INTERVAL " ++ interval days)) := by
  have hand : " IS NOT NULL AND " = " IS NOT NULL" ++ " AND " := by decide
  have hquote : " >= NOW() - INTERVAL '" = " >= NOW() - INTERVAL " ++ "'" := by decide
  have hend : " days')" = " days" ++ ("'" ++ ")") := by decide
  change "(" ++ column c ++ " IS NOT NULL AND " ++ column c ++ " >= NOW() - INTERVAL '" ++
      integer days ++ " days')" = "(" ++ (column c ++ " IS NOT NULL" ++ " AND " ++
        (column c ++ " >= NOW() - INTERVAL " ++ ("'" ++ (integer days ++ " days") ++ "'"))) ++ ")"
  rw [hand, hquote, hend]
  simp only [String.append_assoc]

lemma completes_textQuery {name : String} (h : name.toList.all Text.isPlain = true) :
    Completes (textQuery name)
      (["websearch_to_tsquery", "(", "'english'", ","] ++ [parameter name] ++ [")"]) := by
  have hopen : Completes "websearch_to_tsquery('english', "
      ["websearch_to_tsquery", "(", "'english'", ","] := by decide
  exact (hopen.append_tokenizes (tokenizes_parameter h)).append_separates (by decide)

lemma tokenizes_condition {c : Condition}
    (h : ∀ name ∈ c.references, name.toList.all Text.isPlain = true) :
    Tokenizes (condition c) (conditionTokens c) := by
  cases c with
  | textMatch index query =>
    have hquery := completes_textQuery (h query List.mem_cons_self)
    have hmatch : Separates " @@ " ["@@"] := by decide
    exact (tokenizes_textIndex index).around hmatch hquery.tokenizes
  | iLike c name =>
    have hlike : Separates " ILIKE " ["ILIKE"] := by decide
    exact (tokenizes_column c).around hlike (tokenizes_parameter (h name List.mem_cons_self))
  | equals c name =>
    have hop : Separates " = " ["="] := by decide
    exact (tokenizes_column c).around hop (tokenizes_parameter (h name List.mem_cons_self))
  | notEquals c name =>
    have hop : Separates " <> " ["<>"] := by decide
    exact (tokenizes_column c).around hop (tokenizes_parameter (h name List.mem_cons_self))
  | equalsIgnoringCase c name =>
    have hopen : Completes "LOWER(" ["LOWER", "("] := by decide
    have hclose : Separates ") = " [")", "="] := by decide
    exact (hopen.append_tokenizes (tokenizes_column c)).around hclose
      (tokenizes_parameter (h name List.mem_cons_self))
  | compare c op value =>
    have hblank : Separates " " [] := by decide
    exact ((tokenizes_column c).around hblank (tokenizes_comparison op)).around hblank
      (tokenizes_comparand h)
  | between c low high =>
    obtain ⟨hlow, hhigh⟩ := List.forall_mem_append.mp h
    have hbetween : Separates " BETWEEN " ["BETWEEN"] := by decide
    exact ((tokenizes_column c).around hbetween (tokenizes_comparand hlow)).and
      (tokenizes_comparand hhigh)
  | anyEquals cs name =>
    have hopen : Completes "LOWER(" ["LOWER", "("] := by decide
    have hname := tokenizes_parameter (h name List.mem_cons_self)
    have hany : Separates ") = ANY(LOWER(" [")", "=", "ANY", "(", "LOWER", "("] := by decide
    have hleft := (hopen.append_tokenizes hname).append_separates hany
    have htext : condition (.anyEquals cs name) =
        "LOWER(" ++ parameter name ++ ") = ANY(LOWER(" ++ (arrays cs ++ "::text)::text[])") :=
      String.append_assoc ..
    rw [htext]
    exact (hleft.append (completes_cast cs)).tokenizes
  | anyLike cs name =>
    have hopen : Completes "EXISTS (SELECT 1 FROM unnest("
        ["EXISTS", "(", "SELECT", "1", "FROM", "unnest", "("] := by decide
    have hmiddle : Separates ") AS element WHERE element ILIKE "
        [")", "AS", "element", "WHERE", "element", "ILIKE"] := by decide
    have helement := (hopen.append_tokenizes (tokenizes_arrays cs)).around hmiddle
      (tokenizes_parameter (h name List.mem_cons_self))
    have hall := helement.append_separates (show Separates ")" [")"] by decide)
    rw [List.append_assoc, List.append_assoc] at hall
    exact hall.tokenizes
  | inList c name =>
    have hany : Separates " = ANY(" ["=", "ANY", "("] := by decide
    have hclose : Separates ")" [")"] := by decide
    have hvalues := (tokenizes_column c).around hany
      (tokenizes_parameter (h name List.mem_cons_self))
    exact (hvalues.append_separates hclose).tokenizes
  | isNull c => exact tokenizes_null c
  | isNotNull c => exact tokenizes_set c
  | notEmpty c => exact tokenizes_notEmpty c
  | isEmpty c =>
    rw [isEmpty_eq]
    exact ((tokenizes_null c).or (tokenizes_emptyTest c)).parenthesized.tokenizes
  | withinDays c days =>
    rw [withinDays_eq]
    exact ((tokenizes_set c).and (completes_since c days).tokenizes).parenthesized.tokenizes

lemma Tokenizes.operand {p : Predicate} (h : Tokenizes text ts) :
    Tokenizes (asOperand p text) (operandTokens p ts) := by
  unfold asOperand operandTokens
  split_ifs
  · exact h.parenthesized.tokenizes
  · exact h

theorem tokenizes_predicate {p : Predicate} (h : p.PlainNames) :
    Tokenizes (predicate p) (tokens p) := by
  induction p with
  | test c => exact tokenizes_condition h
  | and left right ihl ihr =>
    obtain ⟨hl, hr⟩ := List.forall_mem_append.mp h
    exact (ihl hl).operand.and (ihr hr).operand
  | or left right ihl ihr =>
    obtain ⟨hl, hr⟩ := List.forall_mem_append.mp h
    exact (ihl hl).operand.or (ihr hr).operand
  | not inner ih =>
    have hnot : Completes "NOT " ["NOT"] := by decide
    exact hnot.append_tokenizes (ih h).parenthesized.tokenizes
  | group inner ih => exact (ih h).parenthesized.tokenizes

end Sql

end ReadLater
