import Mathlib.Data.List.Forall2
import ReadLater.Proofs.JsonNumbers
import ReadLater.Proofs.JsonStrings

/-!
# Written lists and objects

The elements of a list and the members of an object are texts in a row, with a comma between each
two of them and a gap of blanks before each. The readers of lists and objects take a row of texts if
they take the texts one by one, whatever the gaps are.
-/

namespace ReadLater.Json

/-- The texts with commas between them, each after a gap. -/
def row (gap : List Char) : List (List Char) → List Char
  | [] => []
  | t :: ts => gap ++ t ++ ts.flatMap fun u => ',' :: gap ++ u

/-- A value may start with the character. -/
def StartsValue (c : Char) : Prop :=
  c ∈ ['[', '\x7b', '"', 'n', 't', 'f'] ∨ Reader.startsNumeral c = true

lemma eq_of_isJsonBlank {c : Char} (h : isJsonBlank c = true) : c ∈ [' ', '\n', '\t', '\r'] := by
  simpa [isJsonBlank, or_assoc] using h

lemma ne_of_startsNumeral {c d : Char} (h : Reader.startsNumeral c = true)
    (hd : Reader.startsNumeral d = false) : c ≠ d := by
  rintro rfl
  rw [h] at hd
  cases hd

lemma StartsValue.plain {c : Char} (h : StartsValue c) :
    isJsonBlank c = false ∧ c ≠ ']' ∧ c ≠ ',' := by
  have hvalues : ∀ c ∈ ['[', '\x7b', '"', 'n', 't', 'f'],
      isJsonBlank c = false ∧ c ≠ ']' ∧ c ≠ ',' :=
    List.all_iff_forall_prop.mp (by decide)
  have hblanks : ∀ d ∈ [' ', '\n', '\t', '\r'], Reader.startsNumeral d = false :=
    List.all_iff_forall_prop.mp (by decide)
  rcases h with hmark | hnumeral
  · exact hvalues c hmark
  · refine ⟨?_, ne_of_startsNumeral hnumeral rfl, ne_of_startsNumeral hnumeral rfl⟩
    rw [← Bool.not_eq_true]
    intro hblank
    exact ne_of_startsNumeral hnumeral (hblanks c (eq_of_isJsonBlank hblank)) rfl

lemma exists_writeScalar_cons (json : Json) :
    ∃ c cs, json.writeScalar = c :: cs ∧ StartsValue c := by
  have hnull : StartsValue 'n' := .inl (by decide)
  cases json with
  | bool b => cases b <;> exact ⟨_, _, rfl, .inl (by decide)⟩
  | string s => exact ⟨'"', _, rfl, .inl (by decide)⟩
  | number x =>
    have hnumeral {n : Numeral} (hn : n.IsWritable) :
        ∃ c cs, n.written = c :: cs ∧ StartsValue c := by
      obtain ⟨c, cs, hcons, hc⟩ := Reader.exists_written_cons hn
      exact ⟨c, cs, hcons, .inr hc⟩
    cases x with
    | int n =>
      change ∃ c cs, Text.decimalInt n = c :: cs ∧ StartsValue c
      rw [← Numeral.written_ofInt]
      exact hnumeral (Numeral.isWritable_ofInt n)
    | float x =>
      change ∃ c cs, (Number.float x).write = c :: cs ∧ StartsValue c
      rw [Number.write]
      split_ifs
      · obtain ⟨n, hn, hwritten⟩ := Numeral.exists_written_shortest x
        rw [← hwritten]
        exact hnumeral hn
      · exact ⟨'n', _, rfl, hnull⟩
  | _ => exact ⟨'n', _, rfl, hnull⟩

namespace Reader

variable {α σ : Type} {gap cs : List Char}

lemma blanks_nil : Blanks [] := by
  intro c hc
  cases hc

lemma endsNumber_blanks (h : Blanks gap) {c : Char} (hc : c ∈ [',', ']', '\x7d', '\n'])
    (cs : List Char) : EndsNumber (gap ++ c :: cs) := by
  cases gap with
  | nil => exact endsNumber_cons hc cs
  | cons d gap =>
    have hblanks : ∀ c ∈ [' ', '\n', '\t', '\r'],
        Text.isAsciiDigit c = false ∧ c ≠ '.' ∧ c ≠ 'e' ∧ c ≠ 'E' :=
      List.all_iff_forall_prop.mp (by decide)
    intro e he
    cases he
    exact hblanks d (eq_of_isJsonBlank (h d List.mem_cons_self))

lemma takes_next_written {n : Numeral} (h : n.IsWritable) (hgap : Blanks gap)
    (cs : List Char) : ∃ c, startsNumeral c = true ∧
      Takes next (gap ++ (n.written ++ cs)) (some c) (n.written ++ cs) := by
  obtain ⟨c, more, hcons, hc⟩ := exists_written_cons h
  rw [hcons]
  have hstart : StartsValue c := .inr hc
  exact ⟨c, hc, takes_next hgap hstart.plain.1 _⟩

lemma takes_hasElement_first (hgap : Blanks gap) {c : Char} (hc : StartsValue c) :
    Takes (hasElement true) (gap ++ c :: cs) true (c :: cs) := by
  obtain ⟨hblank, hclose, -⟩ := hc.plain
  refine (takes_next hgap hblank cs).bind ?_
  simp only [hclose, if_false, if_true]
  exact takes_pure true _

lemma takes_hasElement_more (hgap : Blanks gap) {c : Char} (hc : StartsValue c) :
    Takes (hasElement false) (',' :: (gap ++ c :: cs)) true (c :: cs) := by
  obtain ⟨hblank, hclose, -⟩ := hc.plain
  refine (takes_next (c := ',') blanks_nil rfl _).bind ?_
  refine (takes_advance ',' _).bind ((takes_next hgap hblank cs).bind ?_)
  simp only [hclose, if_false]
  exact takes_pure true _

lemma takes_hasElement_end (hgap : Blanks gap) (first : Bool) :
    Takes (hasElement first) (gap ++ ']' :: cs) false (']' :: cs) :=
  (takes_next hgap rfl cs).bind (takes_pure false _)

/-- Wherever a number may end, the reader takes the text, which starts like a value. -/
structure TakesText (reader : Reader α) (t : List Char) (a : α) : Prop where
  starts : ∃ c cs, t = c :: cs ∧ StartsValue c
  takes : ∀ {rest}, EndsNumber rest → Takes reader (t ++ rest) a rest

variable {element : Reader α} {as : List α} {ts : List (List Char)} {stop : List Char}

lemma takes_elementStep {t lead : List Char} {a : α} (h : TakesText element t a) (before : List α)
    (hlead : ∀ {c cs}, StartsValue c →
      Takes (hasElement before.isEmpty) (lead ++ c :: cs) true (c :: cs)) (hcs : EndsNumber cs) :
    Takes (elementStep element before) (lead ++ (t ++ cs)) (.inl (a :: before)) cs := by
  obtain ⟨c, more, rfl, hc⟩ := h.starts
  refine (hlead hc).bind ?_
  exact (h.takes hcs).bind (takes_pure _ cs)

lemma takes_elementStep_end (hstop : Blanks stop) (before : List α) :
    Takes (elementStep element before) (stop ++ ']' :: cs) (.inr before.reverse) cs :=
  (takes_hasElement_end hstop _).bind ((takes_advance ']' cs).bind (takes_pure _ cs))

lemma endsNumber_more (hstop : Blanks stop) {c : Char} (hc : c ∈ [',', ']', '\x7d', '\n'])
    (gap : List Char) (ts : List (List Char)) (cs : List Char) :
    EndsNumber ((ts.flatMap fun u => ',' :: gap ++ u) ++ (stop ++ c :: cs)) := by
  cases ts with
  | nil => exact endsNumber_blanks hstop hc cs
  | cons t ts => exact endsNumber_cons (by decide) _

lemma loops_elementStep (hgap : Blanks gap) (hstop : Blanks stop)
    (h : List.Forall₂ (TakesText element) ts as) {before : List α} (hbefore : before ≠ [])
    (cs : List Char) : Loops (elementStep element) before
      ((ts.flatMap fun u => ',' :: gap ++ u) ++ (stop ++ ']' :: cs)) (before.reverse ++ as) cs := by
  induction h generalizing before with
  | nil =>
    rw [List.append_nil]
    exact .stop (takes_elementStep_end hstop before)
  | @cons t a ts as ht _ ih =>
    have hlead : ∀ {c cs}, StartsValue c →
        Takes (hasElement before.isEmpty) (',' :: gap ++ c :: cs) true (c :: cs) := by
      intro c cs hc
      rw [List.isEmpty_eq_false_iff.mpr hbefore]
      exact takes_hasElement_more hgap hc
    have hstep := takes_elementStep ht before hlead
      (endsNumber_more (c := ']') hstop (by decide) gap ts cs)
    have hrest := ih (List.cons_ne_nil a before)
    rw [List.reverse_cons, List.append_assoc, List.singleton_append] at hrest
    rw [List.flatMap_cons, List.append_assoc, List.append_assoc]
    refine .go hstep ?_ hrest
    simp
    omega

theorem takes_elements (hgap : Blanks gap) (hstop : Blanks stop)
    (h : List.Forall₂ (TakesText element) ts as) (cs : List Char) :
    Takes (elements element) (row gap ts ++ (stop ++ ']' :: cs)) as cs := by
  cases h with
  | nil => exact (Loops.stop (takes_elementStep_end hstop [])).takes
  | @cons t a ts as ht hts =>
    have hstep := takes_elementStep ht [] (takes_hasElement_first hgap)
      (endsNumber_more (c := ']') hstop (by decide) gap ts cs)
    have hrest := loops_elementStep hgap hstop hts (List.cons_ne_nil a []) cs
    rw [row, List.append_assoc, List.append_assoc]
    refine (Loops.go hstep ?_ hrest).takes
    obtain ⟨c, more, rfl, -⟩ := ht.starts
    simp
    omega

lemma takes_hasMember_first (hgap : Blanks gap) (cs : List Char) :
    Takes (hasMember true) (gap ++ '"' :: cs) true ('"' :: cs) :=
  (takes_next hgap rfl cs).bind (takes_pure true _)

lemma takes_hasMember_more (hgap : Blanks gap) (cs : List Char) :
    Takes (hasMember false) (',' :: gap ++ '"' :: cs) true ('"' :: cs) :=
  (takes_next (c := ',') blanks_nil rfl _).bind
    ((takes_advance ',' _).bind ((takes_next hgap rfl cs).bind (takes_pure true _)))

lemma takes_hasMember_end (hgap : Blanks gap) (first : Bool) (cs : List Char) :
    Takes (hasMember first) (gap ++ '\x7d' :: cs) false ('\x7d' :: cs) :=
  (takes_next hgap rfl cs).bind (takes_pure false _)

lemma takes_colon (cs : List Char) : Takes colon (':' :: cs) () cs :=
  (takes_next (c := ':') blanks_nil rfl cs).bind (takes_advance ':' cs)

/-- Names and the texts after them, which are taken one after another from the state `s` to the
state `s'`. -/
inductive TakesMembers (member : σ → String → Reader σ) :
    σ → List (String × List Char) → σ → Prop
  | nil {s} : TakesMembers member s [] s
  | cons {s name t s' more s''} :
      (∀ {rest}, EndsNumber rest → Takes (member s name) (t ++ rest) s' rest) →
      TakesMembers member s' more s'' → TakesMembers member s ((name, t) :: more) s''

/-- A name and the text after it. -/
def memberText (m : String × List Char) : List Char :=
  writeString m.1 ++ m.2

variable {member : σ → String → Reader σ} {s s' : σ} {name : String} {t lead : List Char}
  {ms : List (String × List Char)}

lemma takes_memberStep {first : Bool}
    (hlead : ∀ cs, Takes (hasMember first) (lead ++ '"' :: cs) true ('"' :: cs))
    (h : ∀ {rest}, EndsNumber rest → Takes (member s name) (t ++ rest) s' rest)
    (hcs : EndsNumber cs) :
    Takes (memberStep member (first, s)) (lead ++ (memberText (name, t) ++ cs))
      (.inl (false, s')) cs := by
  rw [memberText, List.append_assoc, writeString_append]
  refine (hlead _).bind ((takes_advance '"' _).bind ((takes_stringRest name _).bind ?_))
  exact (h hcs).bind (takes_pure _ cs)

lemma takes_memberStep_end (hstop : Blanks stop) (first : Bool) (s : σ) :
    Takes (memberStep member (first, s)) (stop ++ '\x7d' :: cs) (.inr s) cs :=
  (takes_hasMember_end hstop first cs).bind ((takes_advance '\x7d' cs).bind (takes_pure _ cs))

lemma length_memberText_pos (m : String × List Char) : 0 < (memberText m).length := by
  simp [memberText, writeString]

lemma loops_memberStep (hgap : Blanks gap) (hstop : Blanks stop)
    (h : TakesMembers member s ms s') :
    Loops (memberStep member) (false, s)
      (((ms.map memberText).flatMap fun u => ',' :: gap ++ u) ++ (stop ++ '\x7d' :: cs)) s' cs := by
  induction h with
  | nil => exact .stop (takes_memberStep_end hstop false _)
  | @cons s name t s' ms s'' ht _ ih =>
    have hstep := takes_memberStep (takes_hasMember_more hgap) ht
      (endsNumber_more (c := '\x7d') hstop (by decide) gap (ms.map memberText) cs)
    rw [List.map_cons, List.flatMap_cons, List.append_assoc, List.append_assoc]
    refine .go hstep ?_ ih
    simp
    omega

theorem takes_members (hgap : Blanks gap) (hstop : Blanks stop) (h : TakesMembers member s ms s')
    (cs : List Char) :
    Takes (members member s) (row gap (ms.map memberText) ++ (stop ++ '\x7d' :: cs)) s' cs := by
  cases h with
  | nil => exact (Loops.stop (takes_memberStep_end hstop true s)).takes
  | @cons _ name t _ ms _ ht hms =>
    have hstep := takes_memberStep (takes_hasMember_first hgap) ht
      (endsNumber_more (c := '\x7d') hstop (by decide) gap (ms.map memberText) cs)
    have hpos := length_memberText_pos (name, t)
    rw [List.map_cons, row, List.append_assoc, List.append_assoc]
    refine (Loops.go hstep ?_ (loops_memberStep hgap hstop hms)).takes
    simp
    omega

end Reader

end ReadLater.Json
