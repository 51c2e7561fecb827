import ReadLater.Command.Run
import ReadLater.Proofs.Erasure
import ReadLater.Proofs.Identifiers
import ReadLater.Proofs.Requests

/-!
# Values do not reach the text of statements

Two query trees of the same shape, with operands that no field tells apart, compile to the same
predicate, ranks and order, and to parameters of the same names and kinds. So the statements made of
them are the same text, whatever the operands, the users and the values that a bulk action assigns.
-/

namespace ReadLater

namespace Query

def Operand.IsBlank (o : Operand) : Prop :=
  Text.trim o.text = ""

instance (o : Operand) : Decidable o.IsBlank :=
  inferInstanceAs (Decidable (_ = _))

/-- The tags have one field, and operands that it does not tell apart. -/
inductive Tag.Alike : Tag → Tag → Prop
  | freeText {a b : Operand} (hblank : a.IsBlank ↔ b.IsBlank) :
      Tag.Alike ⟨.freeText, a⟩ ⟨.freeText, b⟩
  | named {m n : String} {p q : Bool} {a b : Operand}
      (hfield : Keyword.ofName? m = Keyword.ofName? n) (hblank : a.IsBlank ↔ b.IsBlank)
      (hoperands : ∀ k, Keyword.ofName? m = some k →
        k.Alike ⟨m, Text.trim a.text, a.isQuoted⟩ ⟨n, Text.trim b.text, b.isQuoted⟩) :
      Tag.Alike ⟨.named m p, a⟩ ⟨.named n q, b⟩

end Query

/-- The trees have one shape, and tags alike at each leaf. -/
inductive Query.Alike : Query → Query → Prop
  | empty : Query.Alike .empty .empty
  | tag {s t : Query.Tag} : s.Alike t → Query.Alike (.tag s) (.tag t)
  | logical {connective : Query.Connective} {left right left' right' : Query} :
      Query.Alike left left' → Query.Alike right right' →
      Query.Alike (.logical connective left right) (.logical connective left' right')
  | negation {mark mark' : Query.NegationMark} {operand operand' : Query} :
      Query.Alike operand operand' →
      Query.Alike (.negation mark operand) (.negation mark' operand')
  | group {inner inner' : Query} :
      Query.Alike inner inner' → Query.Alike (.group inner) (.group inner')

variable {o o' : CompileOptions}

lemma Query.Tag.contribution_erase {s t : Query.Tag} (h : s.Alike t)
    (hscope : o.foldersScoped = o'.foldersScoped) {bound : Nat} {c d : Contribution}
    (hs : s.contribution o bound = .ok c) (ht : t.contribution o' bound = .ok d) :
    c.erase = d.erase := by
  cases h with
  | @freeText a b hblank =>
    simp only [contribution] at hs ht
    by_cases hempty : Text.trim a.text = ""
    · rw [if_pos hempty] at hs
      rw [if_pos (show Text.trim b.text = "" from hblank.mp hempty)] at ht
      rw [← Except.ok.inj hs, ← Except.ok.inj ht]
    · rw [if_neg hempty] at hs
      rw [if_neg (show ¬Text.trim b.text = "" from mt hblank.mpr hempty)] at ht
      rw [← Except.ok.inj hs, ← Except.ok.inj ht]
      exact TagOperand.freeText_erase _ _ bound
  | @named m n p q a b hfield hblank hoperands =>
    simp only [contribution, ← hfield] at hs ht
    cases hk : Keyword.ofName? m with
    | none => simp [hk] at hs
    | some k =>
      simp only [hk] at hs ht
      by_cases hempty : Text.trim a.text = ""
      · rw [if_pos hempty] at hs
        rw [if_pos (show Text.trim b.text = "" from hblank.mp hempty)] at ht
        rw [← Except.ok.inj hs, ← Except.ok.inj ht]
      · rw [if_neg hempty] at hs
        rw [if_neg (show ¬Text.trim b.text = "" from mt hblank.mpr hempty)] at ht
        exact Keyword.contribution_erase (hoperands k hk) hscope hs ht

namespace Parameters

/-- The parameters with their names, their kinds and their order only. -/
def erase (ps : Parameters) : Parameters :=
  ⟨ps.entries.map Parameter.erase⟩

def signature (ps : Parameters) : List (String × ValueKind) :=
  ps.entries.map Parameter.signature

lemma signature_of_erase {ps qs : Parameters} (h : ps.erase = qs.erase) :
    ps.signature = qs.signature := by
  have hsignature : ∀ rs : Parameters, rs.erase.signature = rs.signature := fun rs => by
    simp [signature, erase, Parameter.signature_erase]
  rw [← hsignature ps, h, hsignature]

lemma length_of_erase {ps qs : Parameters} (h : ps.erase = qs.erase) :
    ps.entries.length = qs.entries.length := by
  simpa [erase] using congrArg (fun rs => rs.entries.length) h

lemma bind_erase {ps qs : Parameters} (h : ps.erase = qs.erase) (stem : String)
    {v w : ParameterValue} (hvalue : v.erase = w.erase) :
    (ps.bind stem v).erase = (qs.bind stem w).erase := by
  have hentries : ps.entries.map Parameter.erase = qs.entries.map Parameter.erase :=
    congrArg entries h
  simp [erase, bind, nextName, Parameter.erase, hvalue, length_of_erase h, hentries]

end Parameters

namespace Accumulator

def erase (acc : Accumulator) : Accumulator :=
  { acc with parameters := acc.parameters.erase }

lemma bind_erase (acc : Accumulator) (ps : List Parameter) :
    (acc.bind ps).erase = acc.erase.bind (ps.map Parameter.erase) := by
  simp [bind, erase, Parameters.erase]

lemma addRank_erase (acc : Accumulator) (query : String) :
    (acc.addRank query).erase = acc.erase.addRank query := by
  by_cases hsort : acc.hasSort (numbered "rank" acc.ranks.length) = true
  · have hsort' : acc.erase.hasSort (numbered "rank" acc.erase.ranks.length) = true := hsort
    simp only [addRank, if_pos hsort, if_pos hsort']
    rfl
  · have hsort' : ¬acc.erase.hasSort (numbered "rank" acc.erase.ranks.length) = true := hsort
    simp only [addRank, if_neg hsort, if_neg hsort']
    rfl

lemma addSort_erase (acc : Accumulator) (d : SortDirective) :
    (acc.addSort d).erase = acc.erase.addSort d := by
  by_cases hsort : acc.hasSort d.key = true
  · have hsort' : acc.erase.hasSort d.key = true := hsort
    rw [addSort, addSort, if_pos hsort, if_pos hsort']
  · have hsort' : ¬acc.erase.hasSort d.key = true := hsort
    rw [addSort, addSort, if_neg hsort, if_neg hsort']
    rfl

lemma add_erase (acc : Accumulator) (required : Bool) (c : Contribution) :
    (acc.add required c).erase = acc.erase.add required c.erase := by
  obtain ⟨predicate, parameters, ranked, sort, trash⟩ := c
  have hbind := acc.bind_erase parameters
  cases ranked <;> cases sort <;>
    simp only [add, Contribution.erase, ← hbind, ← addRank_erase, ← addSort_erase] <;> rfl

end Accumulator

/-- Runs over trees alike keep the accumulators alike. -/
theorem Compiles.erase_eq {q r : Query} (halike : q.Alike r)
    (hscope : o.foldersScoped = o'.foldersScoped) {required : Bool}
    {acc acc' base base' : Accumulator} {p p' : Option Predicate}
    (hq : Compiles o required q acc p acc') (hr : Compiles o' required r base p' base')
    (hacc : acc.erase = base.erase) : p = p' ∧ acc'.erase = base'.erase := by
  induction halike generalizing required acc acc' base base' p p' with
  | empty =>
    cases hq
    cases hr
    exact ⟨rfl, hacc⟩
  | tag htag =>
    cases hq with
    | @tag _ _ _ c hc =>
      cases hr with
      | @tag _ _ _ d hd =>
        rw [← Parameters.length_of_erase (congrArg Accumulator.parameters hacc)] at hd
        have herase := Query.Tag.contribution_erase htag hscope hc hd
        have hpredicate : c.erase.predicate = d.erase.predicate := by rw [herase]
        rw [Accumulator.add_erase, Accumulator.add_erase, hacc, herase]
        exact ⟨hpredicate, rfl⟩
  | logical _ _ ihl ihr =>
    cases hq with
    | logical hl hr' =>
      cases hr with
      | logical hl' hr'' =>
        obtain ⟨rfl, hmid⟩ := ihl hl hl' hacc
        obtain ⟨rfl, hend⟩ := ihr hr' hr'' hmid
        exact ⟨rfl, hend⟩
  | negation _ ih =>
    cases hq with
    | negation hq =>
      cases hr with
      | negation hr =>
        obtain ⟨rfl, hend⟩ := ih hq hr hacc
        exact ⟨rfl, hend⟩
  | group _ ih =>
    cases hq with
    | group hq =>
      cases hr with
      | group hr =>
        obtain ⟨rfl, hend⟩ := ih hq hr hacc
        exact ⟨rfl, hend⟩

/-- The compiled queries differ only in the values of their parameters. -/
structure Compiled.Alike (c d : Compiled) : Prop where
  predicate : c.predicate = d.predicate
  parameters : c.parameters.erase = d.parameters.erase
  ranks : c.ranks = d.ranks
  sort : c.sort = d.sort
  trash : c.trash = d.trash

theorem Query.Alike.compile {q r : Query} (halike : q.Alike r)
    (hscope : o.foldersScoped = o'.foldersScoped) {c d : Compiled}
    (hq : q.compile o = .ok c) (hr : r.compile o' = .ok d) : c.Alike d := by
  obtain ⟨acc, hacc, hparameters, hranks, hsort, htrash⟩ := compiles_of_compile hq
  obtain ⟨base, hbase, hparameters', hranks', hsort', htrash'⟩ := compiles_of_compile hr
  obtain ⟨hpredicate, herase⟩ := Compiles.erase_eq halike hscope hacc hbase rfl
  have hranksEq : acc.erase.ranks = base.erase.ranks := by rw [herase]
  have hsortEq : acc.erase.sort = base.erase.sort := by rw [herase]
  have htrashEq : acc.erase.trash = base.erase.trash := by rw [herase]
  exact
    { predicate := hpredicate
      parameters := by
        rw [hparameters, hparameters']
        exact congrArg Accumulator.parameters herase
      ranks := hranks.trans (hranksEq.trans hranks'.symm)
      sort := hsort.trans (hsortEq.trans hsort'.symm)
      trash := htrash.trans (htrashEq.trans htrash'.symm) }

/-- The filters differ only in the values of their parameters. -/
structure Filter.Alike (f g : Filter) : Prop where
  predicate : f.predicate = g.predicate
  signature : f.parameters.signature = g.parameters.signature

lemma ownedBy_erase {ps qs : Parameters} (h : ps.erase = qs.erase) (u w : String) :
    (ownedBy ps u).1 = (ownedBy qs w).1 ∧ (ownedBy ps u).2.erase = (ownedBy qs w).2.erase := by
  refine ⟨?_, Parameters.bind_erase h "user_id" rfl⟩
  simp only [ownedBy, Parameters.nextName, Parameters.length_of_erase h]

lemma hide_erase {base base' : Predicate × Parameters} (hp : base.1 = base'.1)
    (hps : base.2.erase = base'.2.erase) (s : ItemState) :
    (hide base s).1 = (hide base' s).1 ∧ (hide base s).2.erase = (hide base' s).2.erase := by
  refine ⟨?_, Parameters.bind_erase hps "state" rfl⟩
  simp only [hide, Parameters.nextName, Parameters.length_of_erase hps, hp]

lemma foldl_hide_erase {base base' : Predicate × Parameters} (hp : base.1 = base'.1)
    (hps : base.2.erase = base'.2.erase) (states : List ItemState) :
    (states.foldl hide base).1 = (states.foldl hide base').1 ∧
      (states.foldl hide base).2.erase = (states.foldl hide base').2.erase := by
  induction states generalizing base base' with
  | nil => exact ⟨hp, hps⟩
  | cons s states ih =>
    obtain ⟨hp', hps'⟩ := hide_erase hp hps s
    exact ih hp' hps'

lemma Compiled.Alike.visibleTo {c d : Compiled} (h : c.Alike d) (u w : String) (v : Visibility) :
    (c.visibleTo u v).Alike (d.visibleTo w v) := by
  obtain ⟨hp, hps⟩ := ownedBy_erase h.parameters u w
  obtain ⟨hbase, hparameters⟩ := foldl_hide_erase hp hps (v.hidden c.trash)
  have hbaseline : (c.baseline u v).1 = (d.baseline w v).1 := by
    rw [baseline, baseline, hbase, h.trash]
  refine ⟨?_, Parameters.signature_of_erase ?_⟩
  · rw [visibleTo_predicate, visibleTo_predicate, h.predicate, hbaseline]
  · rw [visibleTo_parameters, visibleTo_parameters, baseline, baseline, ← h.trash]
    exact hparameters

/-! ## Statements -/

/-- The statements of two selections are the same texts, with parameters of the same names and
kinds. -/
structure Selection.SameStatements (s t : Selection) : Prop where
  whereClause : Sql.whereClause s.filter = Sql.whereClause t.filter
  projection : s.ranks.map Sql.rankColumn = t.ranks.map Sql.rankColumn
  orderClause : Sql.orderClause s.sort = Sql.orderClause t.sort
  select : Sql.select s = Sql.select t
  count : Sql.count s.filter = Sql.count t.filter
  signature : s.filter.parameters.signature = t.filter.parameters.signature

lemma Filter.Alike.whereClause {f g : Filter} (h : f.Alike g) :
    Sql.whereClause f = Sql.whereClause g := by
  simp only [Sql.whereClause, h.predicate]

lemma Filter.Alike.count {f g : Filter} (h : f.Alike g) : Sql.count f = Sql.count g := by
  unfold Sql.count
  rw [h.whereClause]

lemma Filter.Alike.select {f g : Filter} (h : f.Alike g) (ranks : List RankColumn)
    (sort : List SortDirective) (offset limit : Nat) :
    Sql.select ⟨f, ranks, sort, offset, limit⟩ = Sql.select ⟨g, ranks, sort, offset, limit⟩ := by
  unfold Sql.select
  dsimp only
  rw [h.whereClause]

lemma Filter.Alike.sameStatements {f g : Filter} (h : f.Alike g) (ranks : List RankColumn)
    (sort : List SortDirective) (offset limit : Nat) :
    Selection.SameStatements ⟨f, ranks, sort, offset, limit⟩ ⟨g, ranks, sort, offset, limit⟩ where
  whereClause := h.whereClause
  projection := rfl
  orderClause := rfl
  select := h.select ranks sort offset limit
  count := h.count
  signature := h.signature

lemma BulkAction.assigned_eq {a b : BulkAction} (h : a.name = b.name) {t u : Time.Instant}
    {changes changes' : Changes} (ha : a.changes? t = some changes)
    (hb : b.changes? u = some changes') : Sql.assigned changes = Sql.assigned changes' := by
  cases a <;> cases b <;> simp [name] at h
  case addLabels => cases ha
  all_goals
    cases ha
    cases hb
    rfl

lemma Filter.Alike.update {f g : Filter} (h : f.Alike g) {a b : BulkAction}
    (hname : a.name = b.name) {t u : Time.Instant} {changes changes' : Changes}
    (ha : a.changes? t = some changes) (hb : b.changes? u = some changes') :
    Sql.update f changes = Sql.update g changes' := by
  rw [Sql.update, Sql.update, BulkAction.assigned_eq hname ha hb, h.whereClause]

lemma Filter.Alike.statement {f g : Filter} (h : f.Alike g) {a b : BulkAction}
    (hname : a.name = b.name) (t u : Time.Instant) :
    Command.statement a t f = Command.statement b u g := by
  unfold Command.statement
  cases ha : a.changes? t with
  | some changes =>
    cases hb : b.changes? u with
    | some changes' => exact h.update hname ha hb
    | none =>
      cases b <;> simp [BulkAction.changes?] at hb
      cases a <;> simp [BulkAction.name] at hname
      cases ha
  | none =>
    cases hb : b.changes? u with
    | some changes' =>
      cases a <;> simp [BulkAction.changes?] at ha
      cases b <;> simp [BulkAction.name] at hname
      cases hb
    | none => exact h.select _ _ _ _

/-- The searches are alike but for their users: trees alike, and the same paging, flags and default
order. -/
structure SearchRequest.Alike (r r' : SearchRequest) : Prop where
  query : ∃ q q', Query.parse r.query = .ok q ∧ Query.parse r'.query = .ok q' ∧ q.Alike q'
  folders : (r.useFolders || Query.wantsFolders r.query) =
    (r'.useFolders || Query.wantsFolders r'.query)
  first : r.first = r'.first
  after : r.after = r'.after
  visibility : r.visibility = r'.visibility
  sort : r.sort = r'.sort

/-- The bulk actions are alike but for their users: trees alike, and one kind of action. -/
structure BulkRequest.Alike (b b' : BulkRequest) : Prop where
  query : ∃ q q', Query.parse b.query = .ok q ∧ Query.parse b'.query = .ok q' ∧ q.Alike q'
  folders : (b.useFolders || Query.wantsFolders b.query) =
    (b'.useFolders || Query.wantsFolders b'.query)
  action : b.action.name = b'.action.name

variable {s : SearchSettings} {now now' : Time.Moment}

lemma SearchSettings.compile_alike {query query' : String} {useFolders useFolders' : Bool}
    (hquery : ∃ q q', Query.parse query = .ok q ∧ Query.parse query' = .ok q' ∧ q.Alike q')
    (hfolders : (useFolders || Query.wantsFolders query) =
      (useFolders' || Query.wantsFolders query'))
    {c d : Compiled} (hc : s.compile query useFolders now = .ok c)
    (hd : s.compile query' useFolders' now' = .ok d) : c.Alike d := by
  obtain ⟨q, q', hparse, hparse', halike⟩ := hquery
  obtain ⟨_, hsame, hcompile⟩ := Query.compile_of_settings hc
  obtain ⟨_, hsame', hcompile'⟩ := Query.compile_of_settings hd
  cases hparse.symm.trans hsame
  cases hparse'.symm.trans hsame'
  exact halike.compile hfolders hcompile hcompile'

lemma SearchRequest.Alike.sameStatements {r r' : SearchRequest} (h : r.Alike r')
    {selection selection' : Selection} (hr : r.selection s now = .ok selection)
    (hr' : r'.selection s now' = .ok selection') : selection.SameStatements selection' := by
  obtain ⟨offset, c, hoffset, hc, rfl⟩ := selection_eq_ok_iff.mp hr
  obtain ⟨offset', d, hoffset', hd, rfl⟩ := selection_eq_ok_iff.mp hr'
  have hcd := SearchSettings.compile_alike h.query h.folders hc hd
  rw [h.after] at hoffset
  cases hoffset.symm.trans hoffset'
  rw [h.visibility, h.first, h.sort, hcd.ranks, hcd.sort]
  exact (hcd.visibleTo _ _ _).sameStatements _ _ _ _

lemma BulkRequest.Alike.filter {b b' : BulkRequest} (h : b.Alike b') {f g : Filter}
    (hb : b.filter s now = .ok f) (hb' : b'.filter s now' = .ok g) : f.Alike g := by
  obtain ⟨c, hc, rfl⟩ := filter_eq_ok_iff.mp hb
  obtain ⟨d, hd, rfl⟩ := filter_eq_ok_iff.mp hb'
  exact (SearchSettings.compile_alike h.query h.folders hc hd).visibleTo _ _ _

/-- User text reaches nothing but the values of parameters. Queries, searches and bulk actions that
are alike have the same statements, with parameters of the same names and kinds in the same order,
whatever their operands, users, clocks and assigned values are. The one operand that stands in a
statement is that of `sort:`, as an identifier. -/
theorem statements_ignore_values :
    (∀ (q r : Query), q.Alike r → ∀ (o o' : CompileOptions), o.foldersScoped = o'.foldersScoped →
      ∀ (c d : Compiled), q.compile o = .ok c → r.compile o' = .ok d →
        (Sql.whereClause c.filter = Sql.whereClause d.filter ∧
          c.parameters.signature = d.parameters.signature) ∧
        ∀ (u w : String),
          (∀ (v : Visibility) (fallback : SortDirective) (offset limit : Nat),
            Selection.SameStatements
              ⟨c.visibleTo u v, c.ranks, withDefaultSort c.sort fallback, offset, limit⟩
              ⟨d.visibleTo w v, d.ranks, withDefaultSort d.sort fallback, offset, limit⟩) ∧
          ∀ (a b : BulkAction) (t t' : Time.Instant) (changes changes' : Changes),
            a.name = b.name → a.changes? t = some changes → b.changes? t' = some changes' →
            Sql.update (c.visibleTo u {}) changes = Sql.update (d.visibleTo w {}) changes') ∧
    (∀ (s : SearchSettings) (now now' : Time.Moment) (r r' : SearchRequest), r.Alike r' →
      ∀ (selection selection' : Selection), r.selection s now = .ok selection →
        r'.selection s now' = .ok selection' → selection.SameStatements selection') ∧
    (∀ (s : SearchSettings) (now now' : Time.Moment) (b b' : BulkRequest), b.Alike b' →
      ∀ (f g : Filter), b.filter s now = .ok f → b'.filter s now' = .ok g →
        Command.statement b.action now.instant f = Command.statement b'.action now'.instant g ∧
        Sql.count f = Sql.count g ∧ f.parameters.signature = g.parameters.signature) ∧
    ∀ (t : TagOperand) (c : Contribution), t.sort = .ok c →
      ∃ d, c = { sort := some d } ∧ Text.IsIdentifier d.key ∧
        ∃ entry direction, (entry = "library_item." ++ d.key ∨ entry = d.key) ∧
          (direction = "ASC" ∨ direction = "DESC") ∧
          Sql.sortDirective d = entry ++ " " ++ direction ++ " NULLS LAST" := by
  refine ⟨fun q r halike o o' hscope c d hc hd => ?_, fun s now now' r r' h _ _ => h.sameStatements,
    fun s now now' b b' h f g hf hg => ?_, fun t c h => ?_⟩
  · have hcd := halike.compile hscope hc hd
    refine ⟨⟨?_, Parameters.signature_of_erase hcd.parameters⟩, fun u w =>
      ⟨fun v fallback offset limit => ?_, fun a b t t' changes changes' hname ha hb => ?_⟩⟩
    · simp only [Sql.whereClause, Compiled.filter, hcd.predicate]
    · rw [hcd.ranks, hcd.sort]
      exact (hcd.visibleTo u w v).sameStatements _ _ _ _
    · exact (hcd.visibleTo u w {}).update hname ha hb
  · have hfg := h.filter hf hg
    exact ⟨hfg.statement h.action _ _, hfg.count, hfg.signature⟩
  · obtain ⟨d, rfl, hkey, hnulls⟩ := TagOperand.sort_isIdentifier h
    obtain ⟨entry, direction, hentry, hdirection, htext⟩ := Sql.sortDirective_eq d
    rw [hnulls, String.append_assoc] at htext
    exact ⟨d, rfl, hkey, entry, direction, hentry, hdirection, htext⟩

/-- A label and a word that try to leave their places in a statement, next to harmless ones. -/
theorem statements_ignore_values_hostile_label :
    let now : Time.Moment := ⟨.epoch, 0⟩
    let text := "label:\"x'); DROP TABLE library_item; --\" o'brien"
    let q : Query := .logical .and
      (.tag ⟨.named "label" false, .literal (.string "x'); DROP TABLE library_item; --") true⟩)
      (.tag ⟨.freeText, .literal (.string "o'brien") false⟩)
    let q' : Query := .logical .and (.tag ⟨.named "LABEL" false, .literal (.string "a") false⟩)
      (.tag ⟨.freeText, .literal (.string "b") false⟩)
    let r : SearchRequest := { userId := "'; --", query := text }
    let r' : SearchRequest := { userId := "u1", query := "LABEL:a b" }
    let b : BulkRequest := ⟨"'; --", text, .move "', state = '", false⟩
    let b' : BulkRequest := ⟨"u1", "LABEL:a b", .move "inbox", false⟩
    q.Alike q' ∧ r.Alike r' ∧ b.Alike b' ∧
    (∃ c d, q.compile ⟨false, now, .monday⟩ = .ok c ∧ q'.compile ⟨false, now, .monday⟩ = .ok d ∧
      Sql.whereClause c.filter = Sql.whereClause d.filter) ∧
    (∃ selection selection', r.selection {} now = .ok selection ∧
      r'.selection {} now = .ok selection' ∧ selection.SameStatements selection' ∧
      Sql.orderClause selection.sort =
        "ORDER BY rank_0 DESC NULLS LAST, library_item.updated_at DESC NULLS LAST") ∧
    (∃ f g, b.filter {} now = .ok f ∧ b'.filter {} now = .ok g ∧
      Command.statement b.action .epoch f = Command.statement b'.action .epoch g) ∧
    ∃ c d, TagOperand.sort ⟨"sort", "Saved-asc", false⟩ = .ok c ∧ c = { sort := some d } ∧
      Text.IsIdentifier d.key := by
  intro now text q q' r r' b b'
  have halike : q.Alike q' := by
    refine .logical (.tag (.named (by decide +kernel) ?_ ?_)) (.tag (.freeText ?_))
    · exact iff_of_false (by decide +kernel) (by decide +kernel)
    · intro k hk
      have hlabel : Keyword.ofName? "label" = some .label := by decide +kernel
      cases hlabel.symm.trans hk
      change TagOperand.stars _ = TagOperand.stars _
      decide +kernel
    · exact iff_of_false (by decide +kernel) (by decide +kernel)
  have hparse : Query.parse text = .ok q := by
    simp only [text, q]
    rfl
  have hparse' : Query.parse "LABEL:a b" = .ok q' := by
    simp only [q']
    rfl
  have htrees : ∃ q q', Query.parse text = .ok q ∧ Query.parse "LABEL:a b" = .ok q' ∧ q.Alike q' :=
    ⟨q, q', hparse, hparse', halike⟩
  have hr : r.Alike r' := ⟨htrees, by decide +kernel, rfl, rfl, rfl, rfl⟩
  have hb : b.Alike b' := ⟨htrees, by decide +kernel, rfl⟩
  obtain ⟨hcompile, hsearch, hbulk, hsort⟩ := statements_ignore_values
  have hq : (q.compile ⟨false, now, .monday⟩).toOption.map (·.trash) = some false := by
    decide +kernel
  have hq' : (q'.compile ⟨false, now, .monday⟩).toOption.map (·.trash) = some false := by
    decide +kernel
  have horder : (r.selection {} now).toOption.map (fun s => Sql.orderClause s.sort) =
      some "ORDER BY rank_0 DESC NULLS LAST, library_item.updated_at DESC NULLS LAST" := by
    decide +kernel
  have hlimit : (r'.selection {} now).toOption.map (·.limit) = some 10 := by decide +kernel
  have hf : (b.filter {} now).toOption.map (·.parameters.entries.length) = some 5 := by
    decide +kernel
  have hg : (b'.filter {} now).toOption.map (·.parameters.entries.length) = some 5 := by
    decide +kernel
  have hkey : (TagOperand.sort ⟨"sort", "Saved-asc", false⟩).toOption.map (·.trash) =
      some false := by decide +kernel
  obtain ⟨c, hc, -⟩ := Except.exists_of_toOption hq
  obtain ⟨d, hd, -⟩ := Except.exists_of_toOption hq'
  obtain ⟨selection, hselection, hclause⟩ := Except.exists_of_toOption horder
  obtain ⟨selection', hselection', -⟩ := Except.exists_of_toOption hlimit
  obtain ⟨f, hf, -⟩ := Except.exists_of_toOption hf
  obtain ⟨g, hg, -⟩ := Except.exists_of_toOption hg
  obtain ⟨e, he, -⟩ := Except.exists_of_toOption hkey
  obtain ⟨directive, hdirective, hidentifier, -⟩ := hsort _ e he
  exact ⟨halike, hr, hb, ⟨c, d, hc, hd, (hcompile q q' halike _ _ rfl c d hc hd).1.1⟩,
    ⟨selection, selection', hselection, hselection',
      hsearch _ _ _ _ _ hr _ _ hselection hselection', hclause⟩,
    ⟨f, g, hf, hg, (hbulk _ _ _ _ _ hb f g hf hg).1⟩, e, directive, he, hdirective, hidentifier⟩

end ReadLater
