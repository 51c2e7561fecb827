import ReadLater.Proofs.BulkWrite
import ReadLater.Proofs.FieldTyping
import ReadLater.Proofs.Paging

/-!
# Requests that reach the store

Once the query of a request is compiled, its filter can be evaluated on every item. So counts and
bulk actions do not fail in the store, and a search does so only for a sort key that names neither a
column nor a rank column of the query.
-/

namespace ReadLater

/-- The filter can be told of every item, and is unknown only for a null in a column that it
mentions. -/
def Filter.Evaluable (f : Filter) : Prop :=
  ∃ p, f.predicate = some p ∧ ∀ (clock : Time.Instant) (i : Item),
    ∃ t, p.truth f.parameters clock i = .ok t ∧ (i.HasNumbers → t = none → i.Lacks p.columns)

lemma Filter.Evaluable.exists_accepts {f : Filter} (h : f.Evaluable) (clock : Time.Instant)
    (i : Item) : ∃ b, f.accepts clock i = .ok b := by
  obtain ⟨p, hp, htruth⟩ := h
  obtain ⟨t, ht, -⟩ := htruth clock i
  exact ⟨_, Filter.accepts_of_truth hp ht⟩

theorem Query.evaluable_of_compile {options : CompileOptions} {q : Query} {c : Compiled}
    (h : q.compile options = .ok c) (userId : String) (v : Visibility) :
    (c.visibleTo userId v).Evaluable := by
  obtain ⟨p, hp, htyped⟩ := Compiled.exists_visibleTo_wellTyped h userId v
  have hnumbered := Compiled.visibleTo_numbered userId v (numbered_of_compile h)
  exact ⟨p, hp, fun clock i => Predicate.truth_of_wellTyped hnumbered htyped clock i⟩

lemma Cursor.read_ne_store {after : Option String} {e : StoreError} :
    read after ≠ .error (.store e) := by
  unfold read
  dsimp only
  split_ifs
  · simp
  · split <;> simp

lemma SearchSettings.compile_ne_store {s : SearchSettings} {text : String} {useFolders : Bool}
    {now : Time.Moment} {e : StoreError} : s.compile text useFolders now ≠ .error (.store e) := by
  unfold SearchSettings.compile
  cases Query.compileText ⟨useFolders, now, s.weekStart⟩ text <;> simp [Except.mapError]

variable {s : SearchSettings} {now : Time.Moment}

lemma SearchRequest.selection_ne_store {r : SearchRequest} {e : StoreError} :
    r.selection s now ≠ .error (.store e) := by
  unfold SearchRequest.selection
  cases hread : Cursor.read r.after with
  | error e' =>
    rintro ⟨⟩
    exact Cursor.read_ne_store hread
  | ok offset =>
    cases hcompile : s.compile r.query r.useFolders now with
    | error e' =>
      rintro ⟨⟩
      exact SearchSettings.compile_ne_store hcompile
    | ok c => simp [bind, Except.bind, pure, Except.pure]

lemma BulkRequest.filter_ne_store {b : BulkRequest} {e : StoreError} :
    b.filter s now ≠ .error (.store e) := by
  unfold BulkRequest.filter
  cases hcompile : s.compile b.query b.useFolders now with
  | error e' =>
    rintro ⟨⟩
    exact SearchSettings.compile_ne_store hcompile
  | ok c => simp [bind, Except.bind, pure, Except.pure]

lemma SearchRequest.evaluable_of_selection {r : SearchRequest} {selection : Selection}
    (h : r.selection s now = .ok selection) : selection.filter.Evaluable := by
  obtain ⟨offset, c, -, hcompile, rfl⟩ := selection_eq_ok_iff.mp h
  obtain ⟨q, -, hq⟩ := Query.compile_of_settings hcompile
  exact Query.evaluable_of_compile hq r.userId r.visibility

lemma SearchRequest.text_of_ranks {r : SearchRequest} {selection : Selection}
    (h : r.selection s now = .ok selection) :
    ∀ rank ∈ selection.ranks, ∃ text, selection.filter.parameters.text rank.query = .ok text := by
  obtain ⟨offset, c, -, hcompile, rfl⟩ := selection_eq_ok_iff.mp h
  obtain ⟨q, -, hq⟩ := Query.compile_of_settings hcompile
  exact fun rank hrank => Compiled.text_of_mem_ranks _ _ hq hrank

lemma BulkRequest.evaluable_of_filter {b : BulkRequest} {f : Filter}
    (h : b.filter s now = .ok f) : f.Evaluable := by
  obtain ⟨c, hcompile, rfl⟩ := filter_eq_ok_iff.mp h
  obtain ⟨q, -, hq⟩ := Query.compile_of_settings hcompile
  exact Query.evaluable_of_compile hq b.userId {}

namespace Library

variable {l : Library} {clock : Time.Instant}

lemma exists_matching {f : Filter} (h : f.Evaluable) (l : Library) (clock : Time.Instant) :
    ∃ items, l.matching clock f = .ok items :=
  ⟨_, matching_eq_ok_iff.mpr ⟨fun i _ => h.exists_accepts clock i, rfl⟩⟩

lemma countMatches_ne_store {r : SearchRequest} {e : StoreError} :
    l.countMatches clock s r now ≠ .error (.store e) := by
  unfold countMatches
  cases hselection : r.selection s now with
  | error e' =>
    rintro ⟨⟩
    exact SearchRequest.selection_ne_store hselection
  | ok selection =>
    obtain ⟨items, hitems⟩ :=
      exists_matching (SearchRequest.evaluable_of_selection hselection) l clock
    have hcount := count_eq_ok_iff.mpr ⟨items, hitems, rfl⟩
    simp [bind, Except.bind, hcount, Except.mapError]

lemma addLabels_ne_store {f : Filter} (h : f.Evaluable) {userId : String}
    {labelIds : List String} {e : StoreError} :
    l.addLabels clock userId f labelIds ≠ .error (.store e) := by
  obtain ⟨items, hitems⟩ := exists_matching h l clock
  unfold addLabels
  dsimp only
  split
  · simp [throw, throwThe, MonadExceptOf.throw, bind, Except.bind]
  · simp [matchingIds, hitems, bind, Except.bind, pure, Except.pure, Except.mapError]

lemma bulk_ne_store {b : BulkRequest} {e : StoreError} :
    l.bulk clock s b now ≠ .error (.store e) := by
  unfold bulk
  cases hfilter : b.filter s now with
  | error e' =>
    rintro ⟨⟩
    exact BulkRequest.filter_ne_store hfilter
  | ok f =>
    have hf := BulkRequest.evaluable_of_filter hfilter
    simp only [bind, Except.bind]
    split
    · exact addLabels_ne_store hf
    · obtain ⟨items, hitems⟩ := exists_matching hf l clock
      obtain ⟨after, n, hupdate⟩ : ∃ after n,
          l.update clock f ((b.action.changes? now.instant).getD {}) = .ok (after, n) :=
        ⟨_, _, update_eq_ok_iff.mpr ⟨items, hitems, rfl, rfl⟩⟩
      simp [hupdate, Except.mapError, pure, Except.pure]

lemma search_of_selection_error {r : SearchRequest} {e : RequestError}
    (h : r.selection s now = .error e) : l.search clock s r now = .error e := by
  unfold search
  rw [h]
  rfl

lemma search_of_unknownKey {r : SearchRequest} {selection : Selection}
    (hselection : r.selection s now = .ok selection) {key : String}
    (hkey : selection.unknownKey? = some key) :
    l.search clock s r now = .error (.store (.noSuchColumn key)) := by
  obtain ⟨items, hitems⟩ :=
    exists_matching (SearchRequest.evaluable_of_selection hselection) l clock
  have hselect := select_of_unknownKey hitems (SearchRequest.text_of_ranks hselection) hkey
  unfold search
  rw [hselection]
  simp only [bind, Except.bind, hselect, Except.mapError]

lemma search_store_error_iff {r : SearchRequest} :
    (∃ e, l.search clock s r now = .error (.store e)) ↔
      ∃ selection, r.selection s now = .ok selection ∧ ∃ key, selection.unknownKey? = some key := by
  cases hselection : r.selection s now with
  | error e' =>
    rw [search_of_selection_error hselection]
    constructor
    · rintro ⟨e, ⟨⟩⟩
      exact absurd hselection SearchRequest.selection_ne_store
    · rintro ⟨selection, ⟨⟩, -⟩
  | ok selection =>
    cases hkey : selection.unknownKey? with
    | none =>
      obtain ⟨items, hitems⟩ :=
        exists_matching (SearchRequest.evaluable_of_selection hselection) l clock
      obtain ⟨rows, hrows⟩ :=
        exists_ordered hitems (SearchRequest.text_of_ranks hselection) hkey
      obtain ⟨page, hpage⟩ := search_of_ordered hselection hrows
      simp [hpage, hkey]
    | some key => simp [search_of_unknownKey hselection hkey, hkey]

/-- Every compiled filter can be evaluated on every item, and is unknown only for a null in one of
its columns. So counts and bulk actions never fail in the store, and a search does just for a sort
key that is neither a column nor a rank column of the query. -/
theorem requests_evaluable (l : Library) (clock : Time.Instant) (s : SearchSettings)
    (now : Time.Moment) :
    (∀ (options : CompileOptions) (text : String) (c : Compiled),
      Query.compileText options text = .ok c → ∀ (userId : String) (v : Visibility),
        (c.visibleTo userId v).Evaluable) ∧
    (∀ (r : SearchRequest) (selection : Selection), r.selection s now = .ok selection →
      selection.filter.Evaluable) ∧
    (∀ (b : BulkRequest) (f : Filter), b.filter s now = .ok f → f.Evaluable) ∧
    (∀ (r : SearchRequest) (e : StoreError), l.countMatches clock s r now ≠ .error (.store e)) ∧
    (∀ (b : BulkRequest) (e : StoreError), l.bulk clock s b now ≠ .error (.store e)) ∧
    ∀ r : SearchRequest, (∃ e, l.search clock s r now = .error (.store e)) ↔
      ∃ selection, r.selection s now = .ok selection ∧
        ∃ d ∈ selection.sort, Column.ofName? d.key = none ∧
          ∀ rank ∈ selection.ranks, rank.name ≠ d.key := by
  refine ⟨fun options text c h userId v => ?_, fun r selection h => ?_, fun b f h => ?_,
    fun r e => countMatches_ne_store, fun b e => bulk_ne_store, fun r => ?_⟩
  · obtain ⟨q, -, hq⟩ := Query.compile_of_compileText h
    exact Query.evaluable_of_compile hq userId v
  · exact SearchRequest.evaluable_of_selection h
  · exact BulkRequest.evaluable_of_filter h
  · simp only [← exists_unknownKey_iff]
    exact search_store_error_iff

/-- An item without a word count, of which a filter on word counts is unknown, and a search that is
to be ordered by what is no column. -/
theorem requests_evaluable_unknown_key :
    let now : Time.Moment := ⟨.epoch, 0⟩
    let i := Item.saved "a" "u1" "Notes" .epoch
    let l : Library := { items := [i] }
    let r : SearchRequest := { userId := "u1", query := "-wordsCount:>3 sort:pages" }
    let b : BulkRequest := ⟨"u1", "-wordsCount:>3", .archive, false⟩
    (∃ c, Query.compileText ⟨false, now, .monday⟩ b.query = .ok c ∧
      (c.visibleTo "u1" {}).Evaluable) ∧
    (∃ selection, r.selection {} now = .ok selection ∧ selection.filter.Evaluable) ∧
    (∃ f p, b.filter {} now = .ok f ∧ f.predicate = some p ∧ i.HasNumbers ∧
      p.truth f.parameters .epoch i = .ok none ∧ i.Lacks p.columns) ∧
    (∀ e, l.countMatches .epoch {} r now ≠ .error (.store e)) ∧
    (∀ e, l.bulk .epoch {} b now ≠ .error (.store e)) ∧
    ∃ e, l.search .epoch {} r now = .error (.store e) := by
  intro now i l r b
  obtain ⟨htext, hsearch, hbulk, hcount, hupdate, herror⟩ := requests_evaluable l .epoch {} now
  have hcompiled : (Query.compileText ⟨false, now, .monday⟩ b.query).toOption.map
      (·.parameters.entries.length) = some 1 := by decide +kernel
  have hkeys : (r.selection {} now).toOption.map
      (fun selection => (selection.sort.map (·.key), selection.ranks)) =
      some (["pages", "updated_at"], []) := by decide +kernel
  have hunknown : (b.filter {} now).toOption.map
      (fun f => f.predicate.map fun p => p.truth f.parameters .epoch i) =
      some (some (.ok none)) := by decide +kernel
  have hnumbers : i.HasNumbers := ⟨by decide +kernel, by decide +kernel⟩
  obtain ⟨c, hc, -⟩ := Except.exists_of_toOption hcompiled
  obtain ⟨selection, hselection, hsort⟩ := Except.exists_of_toOption hkeys
  obtain ⟨hdirectives, hranks⟩ := Prod.mk.inj hsort
  obtain ⟨f, hf, htruth⟩ := Except.exists_of_toOption hunknown
  obtain ⟨p, hp, hnone⟩ := Option.map_eq_some_iff.mp htruth
  obtain ⟨q, hq, htold⟩ := hbulk b f hf
  cases hp.symm.trans hq
  obtain ⟨t, ht, hlacks⟩ := htold .epoch i
  cases hnone.symm.trans ht
  obtain ⟨d, hd, hkey⟩ : ∃ d ∈ selection.sort, d.key = "pages" :=
    List.mem_map.mp (hdirectives ▸ List.mem_cons_self)
  refine ⟨⟨c, hc, htext _ _ c hc "u1" {}⟩, ⟨selection, hselection, hsearch r selection hselection⟩,
    ⟨f, p, hf, hp, hnumbers, hnone, hlacks hnumbers rfl⟩, hcount r, hupdate b, ?_⟩
  refine (herror r).mpr ⟨selection, hselection, d, hd, ?_, ?_⟩
  · rw [hkey]
    decide +kernel
  · rw [hranks]
    simp

end Library

end ReadLater
