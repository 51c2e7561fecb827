import Mathlib.Data.List.Chain
import ReadLater.Proofs.Identifiers

/-!
# Tokens of SQL

Words, parameters, casts, numbers, operators, brackets and quoted texts. A token ends at a blank, at
a bracket or comma, at a quote, or where the next character does not go on with it.
-/

namespace ReadLater.Sql

def isWord (c : Char) : Bool :=
  Text.isPlain c || ('A' ≤ c && c ≤ 'Z') || c = '.'

def isOperator (c : Char) : Bool :=
  c = '<' || c = '>' || c = '=' || c = '@'

/-- The character is a token of its own. -/
def isMark (c : Char) : Bool :=
  c = '(' || c = ')' || c = '[' || c = ']' || c = ','

/-- A token that ends in `a` so far goes on with `b`. -/
def joins (a b : Char) : Bool :=
  (isWord a && isWord b) || (isOperator a && isOperator b) || (a = ':' && (b = ':' || isWord b)) ||
    (a = '-' && Text.isAsciiDigit b)

/-- The tokens read so far, and the characters of an unfinished one, last one first. -/
structure Scan where
  tokens : List String := []
  word : List Char := []
  quoted : Bool := false
deriving DecidableEq

namespace Scan

/-- Finishes the token. -/
def flush (s : Scan) : Scan :=
  if s.word = [] then s else ⟨s.tokens ++ [String.ofList s.word.reverse], [], s.quoted⟩

def step (s : Scan) (c : Char) : Scan :=
  if s.quoted then
    let s := { s with word := c :: s.word }
    if c = '\'' then { s.flush with quoted := false } else s
  else if Text.isBlank c then s.flush
  else if isMark c then { s.flush with tokens := s.flush.tokens ++ [String.ofList [c]] }
  else if c = '\'' then { s.flush with word := [c], quoted := true }
  else if s.word.head?.any (joins · c) then { s with word := c :: s.word }
  else { s.flush with word := [c] }

def run (s : Scan) (cs : List Char) : Scan :=
  cs.foldl step s

end Scan

/-- The tokens of a text, unless it ends in an open quote. -/
def tokens? (text : String) : Option (List String) :=
  let s := (Scan.run {} text.toList).flush
  if s.quoted then none else some s.tokens

namespace Scan

/-- The scan after some tokens more. -/
def after (ts : List String) (s : Scan) : Scan :=
  { s with tokens := ts ++ s.tokens }

lemma flush_after (ts : List String) (s : Scan) : (s.after ts).flush = s.flush.after ts := by
  unfold flush after
  by_cases hword : s.word = [] <;> simp [hword]

lemma step_after (ts : List String) (s : Scan) (c : Char) :
    (s.after ts).step c = (s.step c).after ts := by
  have hquoted : (s.after ts).quoted = s.quoted := rfl
  have hword : (s.after ts).word = s.word := rfl
  unfold step
  dsimp only
  rw [flush_after, hquoted, hword]
  split_ifs
  · exact congrArg (fun s : Scan => { s with quoted := false })
      (flush_after ts { s with word := c :: s.word })
  · rfl
  · rfl
  · simp [after]
  · rfl
  · rfl
  · rfl

lemma run_after (ts : List String) (s : Scan) (cs : List Char) :
    (s.after ts).run cs = (s.run cs).after ts := by
  induction cs generalizing s with
  | nil => rfl
  | cons c cs ih =>
    change ((s.after ts).step c).run cs = _
    rw [step_after, ih]
    rfl

end Scan

/-- The text consists of the tokens, and the last one of them may still go on. -/
def Tokenizes (text : String) (ts : List String) : Prop :=
  (Scan.run {} text.toList).flush = ⟨ts, [], false⟩

/-- The text consists of the tokens, and the last one of them has ended. -/
def Completes (text : String) (ts : List String) : Prop :=
  Scan.run {} text.toList = ⟨ts, [], false⟩

instance (text : String) (ts : List String) : Decidable (Tokenizes text ts) :=
  inferInstanceAs (Decidable (_ = _))

instance (text : String) (ts : List String) : Decidable (Completes text ts) :=
  inferInstanceAs (Decidable (_ = _))

/-- The text ends any token before it. -/
def Breaks (text : String) : Prop :=
  (text.toList.head?.any fun c => Text.isBlank c || isMark c) = true

instance (text : String) : Decidable (Breaks text) :=
  inferInstanceAs (Decidable (_ = _))

/-- The text consists of the tokens, and of no part of one before or after it. -/
def Separates (text : String) (ts : List String) : Prop :=
  Breaks text ∧ Completes text ts

instance (text : String) (ts : List String) : Decidable (Separates text ts) :=
  inferInstanceAs (Decidable (_ ∧ _))

lemma Completes.tokenizes {text : String} {ts : List String} (h : Completes text ts) :
    Tokenizes text ts := by
  rw [Tokenizes, h]
  rfl

lemma tokens?_of_tokenizes {text : String} {ts : List String} (h : Tokenizes text ts) :
    tokens? text = some ts := by
  unfold Tokenizes at h
  simp [tokens?, h]

lemma Scan.step_flush {s : Scan} (hquoted : s.quoted = false) {c : Char}
    (hbreak : (Text.isBlank c || isMark c) = true) : s.step c = s.flush.step c := by
  have hflush : s.flush.flush = s.flush := by
    unfold flush
    by_cases hword : s.word = [] <;> simp [hword]
  have hquoted' : s.flush.quoted = false := by
    unfold flush
    by_cases hword : s.word = [] <;> simp [hword, hquoted]
  unfold step
  rw [hflush, hquoted, hquoted']
  by_cases hblank : Text.isBlank c = true
  · simp [hblank]
  · have hmark : isMark c = true := by simpa [hblank] using hbreak
    simp [hblank, hmark]

lemma Scan.run_append (s : Scan) (cs ds : List Char) : s.run (cs ++ ds) = (s.run cs).run ds :=
  List.foldl_append

lemma Scan.run_of_completed (ts : List String) (cs : List Char) :
    run ⟨ts, [], false⟩ cs = (run {} cs).after ts := by
  rw [← run_after]
  simp [after]

variable {left right : String} {xs ys : List String}

/-- Between two texts that belong to different tokens. -/
lemma run_append_of_breaks (hl : Tokenizes left xs) (hbreak : Breaks right) :
    Scan.run {} (left ++ right).toList = (Scan.run {} right.toList).after xs := by
  rw [String.toList_append, Scan.run_append, ← Scan.run_of_completed, ← hl]
  have hquoted : (Scan.run {} left.toList).quoted = false := by
    have hflush := congrArg Scan.quoted hl
    unfold Scan.flush at hflush
    split at hflush <;> exact hflush
  unfold Breaks at hbreak
  cases hright : right.toList with
  | nil => simp [hright] at hbreak
  | cons c cs =>
    rw [hright] at hbreak
    change (Scan.step _ c).run cs = (Scan.step _ c).run cs
    rw [Scan.step_flush hquoted hbreak]

lemma Tokenizes.append_separates (hl : Tokenizes left xs) (hr : Separates right ys) :
    Completes (left ++ right) (xs ++ ys) := by
  rw [Completes, run_append_of_breaks hl hr.1, hr.2]
  rfl

lemma Tokenizes.append (hl : Tokenizes left xs) (hr : Tokenizes right ys)
    (hbreak : Breaks right) : Tokenizes (left ++ right) (xs ++ ys) := by
  rw [Tokenizes, run_append_of_breaks hl hbreak, Scan.flush_after, hr]
  rfl

lemma Completes.append_tokenizes (hl : Completes left xs) (hr : Tokenizes right ys) :
    Tokenizes (left ++ right) (xs ++ ys) := by
  rw [Tokenizes, String.toList_append, Scan.run_append, hl, Scan.run_of_completed,
    Scan.flush_after, hr]
  rfl

lemma Completes.append (hl : Completes left xs) (hr : Completes right ys) :
    Completes (left ++ right) (xs ++ ys) := by
  rw [Completes, String.toList_append, Scan.run_append, hl, Scan.run_of_completed, hr]
  rfl

/-- The character belongs to a token with others. -/
def isInner (c : Char) : Bool :=
  !Text.isBlank c && !isMark c && c != '\''

lemma Scan.step_of_joins {a c : Char} {word : List Char} (hc : isInner c = true)
    (hjoins : joins a c = true) : step ⟨[], a :: word, false⟩ c = ⟨[], c :: a :: word, false⟩ := by
  simp only [isInner, Bool.and_eq_true, Bool.not_eq_true', bne_iff_ne] at hc
  obtain ⟨⟨hblank, hmark⟩, hquote⟩ := hc
  simp [step, hblank, hmark, hquote, hjoins]

lemma Scan.run_of_chain {a : Char} {word cs : List Char} (hinner : ∀ c ∈ cs, isInner c = true)
    (hchain : (a :: cs).IsChain fun a b => joins a b = true) :
    run ⟨[], a :: word, false⟩ cs = ⟨[], cs.reverse ++ a :: word, false⟩ := by
  induction cs generalizing a word with
  | nil => rfl
  | cons c cs ih =>
    obtain ⟨hc, hcs⟩ := List.forall_mem_cons.mp hinner
    obtain ⟨hjoins, hrest⟩ := List.isChain_cons_cons.mp hchain
    change (step _ c).run cs = _
    rw [step_of_joins hc hjoins, ih hcs hrest]
    simp

lemma Scan.step_start {c : Char} (hc : isInner c = true) : step {} c = ⟨[], [c], false⟩ := by
  simp only [isInner, Bool.and_eq_true, Bool.not_eq_true', bne_iff_ne] at hc
  obtain ⟨⟨hblank, hmark⟩, hquote⟩ := hc
  simp [step, flush, hblank, hmark, hquote]

lemma Scan.run_of_start {c : Char} {cs : List Char} (hinner : ∀ d ∈ c :: cs, isInner d = true)
    (hchain : (c :: cs).IsChain fun a b => joins a b = true) :
    run {} (c :: cs) = ⟨[], cs.reverse ++ [c], false⟩ := by
  obtain ⟨hc, hcs⟩ := List.forall_mem_cons.mp hinner
  change (step {} c).run cs = _
  rw [step_start hc, run_of_chain hcs hchain]

lemma tokenizes_of_chain {c : Char} {cs : List Char} (hinner : ∀ d ∈ c :: cs, isInner d = true)
    (hchain : (c :: cs).IsChain fun a b => joins a b = true) :
    Tokenizes (String.ofList (c :: cs)) [String.ofList (c :: cs)] := by
  rw [Tokenizes, String.toList_ofList, Scan.run_of_start hinner hchain]
  simp [Scan.flush]

lemma code_of_isWord {c : Char} (h : isWord c = true) :
    48 ≤ c.toNat ∧ c.toNat ≤ 57 ∨ 65 ≤ c.toNat ∧ c.toNat ≤ 90 ∨ 97 ≤ c.toNat ∧ c.toNat ≤ 122 ∨
      c.toNat = 95 ∨ c.toNat = 46 := by
  simp only [isWord, Text.isPlain, Text.isAsciiDigit, Bool.or_eq_true, Bool.and_eq_true,
    decide_eq_true_eq, Char.le_def, UInt32.le_iff_toNat_le] at h
  rcases h with (((hlower | hdigit) | rfl) | hupper) | rfl
  · exact .inr (.inr (.inl hlower))
  · exact .inl hdigit
  · decide
  · exact .inr (.inl hupper)
  · decide

lemma isInner_of_isWord {c : Char} (h : isWord c = true) : isInner c = true := by
  have hcode := code_of_isWord h
  have hblank : Text.isBlank c = false := by
    simp [Text.isBlank]
    omega
  have hmark : isMark c = false := by
    refine Bool.eq_false_iff.mpr fun hmark => ?_
    simp only [isMark, Bool.or_eq_true, decide_eq_true_eq] at hmark
    rcases hmark with ((((rfl | rfl) | rfl) | rfl) | rfl) <;> revert hcode <;> decide
  have hquote : c ≠ '\'' := by
    rintro rfl
    revert hcode
    decide
  simp [isInner, hblank, hmark, hquote]

lemma isWord_of_isPlain {c : Char} (h : Text.isPlain c = true) : isWord c = true := by
  simp [isWord, h]

lemma isChain_words {cs : List Char} (h : ∀ c ∈ cs, isWord c = true) :
    cs.IsChain fun a b => joins a b = true := by
  induction cs with
  | nil => exact .nil
  | cons a cs ih =>
    cases cs with
    | nil => exact .singleton a
    | cons b cs =>
      obtain ⟨ha, hcs⟩ := List.forall_mem_cons.mp h
      refine List.isChain_cons_cons.mpr ⟨?_, ih hcs⟩
      simp [joins, ha, hcs b List.mem_cons_self]

lemma Scan.run_quoted {word cs : List Char} (h : '\'' ∉ cs) :
    run ⟨[], word, true⟩ cs = ⟨[], cs.reverse ++ word, true⟩ := by
  induction cs generalizing word with
  | nil => rfl
  | cons c cs ih =>
    obtain ⟨hc, hcs⟩ := not_or.mp (mt List.mem_cons.mpr h)
    have hstep : step ⟨[], word, true⟩ c = ⟨[], c :: word, true⟩ := by
      simp [step, Ne.symm hc]
    change (step _ c).run cs = _
    rw [hstep, ih hcs]
    simp

lemma completes_quoted {text : String} (h : '\'' ∉ text.toList) :
    Completes ("'" ++ text ++ "'") ["'" ++ text ++ "'"] := by
  have hchars : ("'" ++ text ++ "'").toList = '\'' :: (text.toList ++ ['\'']) := by simp
  have hopen : Scan.step {} '\'' = ⟨[], ['\''], true⟩ := by decide
  rw [Completes, hchars]
  change (Scan.step {} '\'').run _ = _
  rw [hopen, Scan.run_append, Scan.run_quoted h]
  have hclose : Scan.step ⟨[], text.toList.reverse ++ ['\''], true⟩ '\'' =
      ⟨[String.ofList (('\'' :: (text.toList.reverse ++ ['\''])).reverse)], [], false⟩ := by
    simp [Scan.step, Scan.flush]
  rw [Scan.run, List.foldl_cons, hclose]
  have htext : String.ofList (('\'' :: (text.toList.reverse ++ ['\''])).reverse) =
      "'" ++ text ++ "'" := by
    apply String.toList_injective
    simp
  rw [htext]
  rfl

/-! ## Tokens of predicates -/

lemma Scan.run_of_words {cs : List Char} (hne : cs ≠ []) (h : ∀ c ∈ cs, isWord c = true) :
    run {} cs = ⟨[], cs.reverse, false⟩ := by
  cases cs with
  | nil => exact absurd rfl hne
  | cons c cs =>
    rw [run_of_start (fun d hd => isInner_of_isWord (h d hd)) (isChain_words h)]
    simp

lemma tokenizes_word {text : String} (hne : text ≠ "") (h : ∀ c ∈ text.toList, isWord c = true) :
    Tokenizes text [text] := by
  have hchars : text.toList ≠ [] := fun hempty => hne (String.toList_injective hempty)
  rw [Tokenizes, Scan.run_of_words hchars h]
  simp [Scan.flush, hchars]

lemma Scan.step_colon {word : List Char} (h : ∀ c ∈ word, isWord c = true) :
    step ⟨[], word, false⟩ ':' = step (flush ⟨[], word, false⟩) ':' := by
  cases word with
  | nil => rfl
  | cons c cs =>
    have hc := h c List.mem_cons_self
    have hjoins : joins c ':' = false := by
      refine Bool.eq_false_iff.mpr fun hjoins => ?_
      simp only [joins, Bool.or_eq_true, Bool.and_eq_true, decide_eq_true_eq] at hjoins
      rcases hjoins with ((⟨-, hcolon⟩ | ⟨-, hcolon⟩) | ⟨rfl, -⟩) | ⟨-, hcolon⟩
      · exact absurd hcolon (by decide)
      · exact absurd hcolon (by decide)
      · exact absurd hc (by decide)
      · exact absurd hcolon (by decide)
    have hblank : Text.isBlank ':' = false := by decide
    simp [step, flush, hblank, hjoins, isMark]

lemma completes_cast_of_words {text right : String} {ts : List String} (hne : text ≠ "")
    (h : ∀ c ∈ text.toList, isWord c = true) (hr : Completes right ts)
    (hcolon : right.toList.head? = some ':') : Completes (text ++ right) (text :: ts) := by
  have hchars : text.toList ≠ [] := fun hempty => hne (String.toList_injective hempty)
  have hflush : Scan.flush ⟨[], text.toList.reverse, false⟩ = ⟨[text], [], false⟩ := by
    simp [Scan.flush, hchars]
  obtain ⟨rest, hright⟩ := List.head?_eq_some_iff.mp hcolon
  rw [Completes, hright] at hr
  rw [Completes, String.toList_append, Scan.run_append, Scan.run_of_words hchars h, hright]
  change (Scan.step _ ':').run rest = _
  rw [Scan.step_colon fun c hc => h c (List.mem_reverse.mp hc), hflush]
  change Scan.run ⟨[text], [], false⟩ (':' :: rest) = _
  rw [Scan.run_of_completed, hr]
  rfl

lemma isWord_of_isAsciiDigit {c : Char} (h : Text.isAsciiDigit c = true) : isWord c = true :=
  isWord_of_isPlain (by simp [Text.isPlain, h])

lemma isWord_of_mem_column {c : Column} {a : Char} (h : a ∈ (column c).toList) :
    isWord a = true := by
  rw [column, String.toList_append, String.toList_append, List.mem_append, List.mem_append] at h
  rcases h with (htable | hdot) | hname
  · have hall : table.toList.all isWord = true := by decide
    exact List.all_eq_true.mp hall a htable
  · have hall : ".".toList.all isWord = true := by decide
    exact List.all_eq_true.mp hall a hdot
  · exact isWord_of_isPlain (List.all_eq_true.mp c.isIdentifier_name.2 a hname)

lemma column_ne_empty (c : Column) : column c ≠ "" := by
  cases c <;> decide

lemma tokenizes_column (c : Column) : Tokenizes (column c) [column c] :=
  tokenizes_word (column_ne_empty c) fun _ => isWord_of_mem_column

lemma tokenizes_textIndex (i : TextIndex) : Tokenizes (textIndex i) [textIndex i] := by
  cases i with
  | search =>
    have hall : (textIndex .search).toList.all isWord = true := by decide
    exact tokenizes_word (by decide) (List.all_eq_true.mp hall)
  | column c =>
    refine tokenizes_word (by cases c <;> decide) fun a ha => ?_
    · rw [textIndex, String.toList_append, List.mem_append] at ha
      rcases ha with hcolumn | hsuffix
      · exact isWord_of_mem_column hcolumn
      · have hall : "_tsv".toList.all isWord = true := by decide
        exact List.all_eq_true.mp hall a hsuffix

lemma tokenizes_parameter {name : String} (h : name.toList.all Text.isPlain = true) :
    Tokenizes (parameter name) [parameter name] := by
  have hword : ∀ c ∈ name.toList, isWord c = true := fun c hc =>
    isWord_of_isPlain (List.all_eq_true.mp h c hc)
  have hparameter : parameter name = String.ofList (':' :: name.toList) := by
    apply String.toList_injective
    simp [parameter]
  rw [hparameter]
  refine tokenizes_of_chain (fun d hd => ?_) ?_
  · rcases List.mem_cons.mp hd with rfl | hname
    · decide
    · exact isInner_of_isWord (hword d hname)
  · cases hname : name.toList with
    | nil => exact .singleton _
    | cons c cs =>
      rw [hname] at hword
      refine List.isChain_cons_cons.mpr ⟨?_, isChain_words hword⟩
      simp [joins, hword c List.mem_cons_self]

lemma tokenizes_integer (n : Int64) : Tokenizes (integer n) [integer n] := by
  obtain ⟨d, ds, hcons, hdigit⟩ := Text.exists_decimal_cons n.toInt.natAbs
  have hword : ∀ c ∈ d :: ds, isWord c = true := fun c hc =>
    isWord_of_isAsciiDigit (Text.isAsciiDigit_of_mem_decimal (hcons ▸ hc))
  have hinner : ∀ c ∈ d :: ds, isInner c = true := fun c hc => isInner_of_isWord (hword c hc)
  rw [integer, Text.decimalInt, hcons]
  split_ifs
  · have hminus : isInner '-' = true := by decide
    have hjoins : joins '-' d = true := by simp [joins, hdigit]
    exact tokenizes_of_chain (List.forall_mem_cons.mpr ⟨hminus, hinner⟩)
      (List.isChain_cons_cons.mpr ⟨hjoins, isChain_words hword⟩)
  · exact tokenizes_of_chain hinner (isChain_words hword)

end ReadLater.Sql
