import ReadLater.Library.Update
import ReadLater.Proofs.FirstErrors
import ReadLater.Proofs.Leaves
import ReadLater.Proofs.Matching

/-!
# Faulty filters

A reference is at fault if its name is not bound, or is bound to a value of another kind than its
place asks for. A test looks up its parameters before it looks at the item, and a connective
evaluates both of its sides, so that what a filter fails with is the fault of the first reference
that has one, whatever the item holds. All calls to a library therefore fail together, and an update
fails before it has written to any item.
-/

namespace ReadLater

/-- What is wrong with a reference: its name is not bound, or its value is of another kind. -/
def Reference.fault? (ps : Parameters) (r : Reference) : Option StoreError :=
  match ps.get? r.name with
  | none => some (.unbound r.name)
  | some v => if r.kind.admits v then none else some (.wrongType r.name)

lemma Reference.fault?_eq_none_iff {ps : Parameters} {r : Reference} :
    r.fault? ps = none ↔ ∃ v, ps.get? r.name = some v ∧ r.kind.admits v = true := by
  unfold fault?
  cases ps.get? r.name <;> simp

lemma Reference.fault?_eq_some_iff {ps : Parameters} {r : Reference} {e : StoreError} :
    r.fault? ps = some e ↔
      ps.get? r.name = none ∧ e = .unbound r.name ∨
        ∃ v, ps.get? r.name = some v ∧ r.kind.admits v = false ∧ e = .wrongType r.name := by
  unfold fault?
  cases ps.get? r.name with
  | none => simp only [Option.some.injEq, true_and, reduceCtorEq, false_and, exists_false, or_false,
      eq_comm]
  | some v => cases hadmits : r.kind.admits v <;> simp [hadmits, eq_comm (a := e)]

namespace Parameters

/-- The fault of the first reference that has one. -/
def fault? (ps : Parameters) (rs : List Reference) : Option StoreError :=
  rs.findSome? (Reference.fault? ps)

variable (ps : Parameters)

@[simp] lemma fault?_nil : ps.fault? [] = none := rfl

@[simp] lemma fault?_singleton (r : Reference) : ps.fault? [r] = r.fault? ps := by
  cases h : r.fault? ps <;> simp [fault?, h]

@[simp] lemma fault?_append (rs ss : List Reference) :
    ps.fault? (rs ++ ss) = (ps.fault? rs).or (ps.fault? ss) :=
  List.findSome?_append

lemma fault?_eq_some_iff {rs : List Reference} {e : StoreError} :
    ps.fault? rs = some e ↔ ∃ before r after, rs = before ++ r :: after ∧
      (∀ q ∈ before, q.fault? ps = none) ∧ r.fault? ps = some e := by
  simp only [fault?, List.findSome?_eq_some_iff, and_comm (a := Reference.fault? ps _ = some e)]

lemma error?_text (name : String) : (ps.text name).error? = Reference.fault? ps ⟨name, .text⟩ := by
  unfold text Reference.fault?
  cases ps.get? name with
  | none => rfl
  | some v => cases v <;> rfl

lemma error?_list (name : String) : (ps.list name).error? = Reference.fault? ps ⟨name, .list⟩ := by
  unfold list Reference.fault?
  cases ps.get? name with
  | none => rfl
  | some v => cases v <;> rfl

lemma error?_comparand (c : Comparand) : (ps.comparand c).error? = ps.fault? c.demands := by
  cases c with
  | constant n => rfl
  | parameter name =>
    rw [Comparand.demands, fault?_singleton]
    simp only [comparand, Reference.fault?]
    cases ps.get? name with
    | none => rfl
    | some v => cases v <;> rfl

end Parameters

/-- No short cut skips a reference: neither a null in the column nor an empty list does. -/
lemma Condition.error?_truth (c : Condition) (ps : Parameters) (now : Time.Instant) (i : Item) :
    (c.truth ps now i).error? = ps.fault? c.demands := by
  cases c with
  | textMatch | iLike | equalsIgnoringCase | equals | notEquals | anyEquals | anyLike =>
    rw [truth, demands, Except.error?_bind_pure, ps.error?_text, ps.fault?_singleton]
  | inList =>
    rw [truth, demands, Except.error?_bind_pure, ps.error?_list, ps.fault?_singleton]
  | compare column comparison value =>
    rw [truth, demands, Except.error?_bind_pure, ps.error?_comparand]
  | between column low high =>
    rw [truth, demands, ps.fault?_append, ← ps.error?_comparand, ← ps.error?_comparand]
    exact Except.error?_bind fun _ => Except.error?_bind_pure _ _
  -- instants are not bounded, so that the start of a window of days always exists
  | isNull | isNotNull | notEmpty | isEmpty | withinDays => rfl

/-- No truth of one side of a connective skips the other side. -/
theorem Predicate.error?_truth (p : Predicate) (ps : Parameters) (now : Time.Instant) (i : Item) :
    (p.truth ps now i).error? = ps.fault? p.demands := by
  induction p with
  | test c => exact c.error?_truth ps now i
  | and left right ihl ihr | or left right ihl ihr =>
    rw [truth, demands, ps.fault?_append, ← ihl]
    exact Except.error?_bind fun _ => (Except.error?_bind_pure _ _).trans ihr
  | not inner ih =>
    rw [truth, Except.error?_bind_pure, ih]
    rfl
  | group inner ih => exact ih

namespace Filter

/-- The references of the predicate, if there is one. -/
def demands (f : Filter) : List Reference :=
  (f.predicate.map Predicate.demands).getD []

def fault? (f : Filter) : Option StoreError :=
  f.parameters.fault? f.demands

theorem error?_accepts (f : Filter) (now : Time.Instant) (i : Item) :
    (f.accepts now i).error? = f.fault? := by
  obtain ⟨predicate, ps⟩ := f
  cases predicate with
  | none => rfl
  | some p => exact (Except.error?_bind_pure _ _).trans (p.error?_truth ps now i)

end Filter

/-- A rank column asks for a text. -/
def RankColumn.demand (c : RankColumn) : Reference :=
  ⟨c.query, .text⟩

lemma error?_scoresOf (ps : Parameters) (i : Item) (columns : List RankColumn) :
    (scoresOf ps i columns).error? = ps.fault? (columns.map RankColumn.demand) := by
  rw [scoresOf, Parameters.fault?, List.findSome?_map]
  refine Except.error?_foldlM (fun scores c => ?_) columns []
  rw [Except.error?_bind_pure, RankColumn.score, Except.error?_bind_pure, ps.error?_text]
  rfl

namespace Library

variable (l : Library) (now : Time.Instant) (f : Filter)

lemma error?_matching :
    (l.matching now f).error? = if l.items.isEmpty then none else f.fault? := by
  simp only [matching, Except.error?_filterM, Filter.error?_accepts, List.findSome?_const]

lemma error?_count : (l.count now f).error? = (l.matching now f).error? :=
  Except.error?_bind_pure _ _

lemma error?_matchingIds : (l.matchingIds now f).error? = (l.matching now f).error? :=
  Except.error?_bind_pure _ _

lemma error?_update (changes : Changes) :
    (l.update now f changes).error? = (l.matching now f).error? := by
  rw [← error?_matchingIds, ← Option.or_none (o := (l.matchingIds now f).error?)]
  refine Except.error?_bind fun ids => ?_
  dsimp only
  split <;> rfl

variable {l now f}

/-- With a filter that can be evaluated a selection fails for its rank columns, if there is an item
to rank, and then for its sort keys. -/
lemma error?_select {s : Selection} {items : List Item}
    (h : l.matching now s.filter = .ok items) :
    (l.select now s).error? =
      (if items.isEmpty then none
        else s.filter.parameters.fault? (s.ranks.map RankColumn.demand)).or
      (s.unknownKey?.map .noSuchColumn) := by
  have hrow : ∀ i : Item, (do
      return (⟨i, ← scoresOf s.filter.parameters i s.ranks⟩ : Row)).error? =
      s.filter.parameters.fault? (s.ranks.map RankColumn.demand) := fun i => by
    rw [Except.error?_bind_pure, error?_scoresOf]
  have hrows : (items.mapM fun i => do
      return (⟨i, ← scoresOf s.filter.parameters i s.ranks⟩ : Row)).error? =
      if items.isEmpty then none
        else s.filter.parameters.fault? (s.ranks.map RankColumn.demand) := by
    simp only [Except.error?_mapM, hrow, List.findSome?_const]
  unfold select
  rw [h, ← hrows]
  refine Except.error?_bind (x := items.mapM _) fun rows => ?_
  cases s.unknownKey? <;> rfl

lemma select_of_matching_error {s : Selection} {e : StoreError}
    (h : l.matching now s.filter = .error e) : l.select now s = .error e := by
  rw [select, h]
  rfl

/-! ## Updates in place -/

/-- Writes to the item at a place, if it has one of the ids. -/
def writeAt (changes : Changes) (ids : List String) (place : Nat) (l : Library) : Library :=
  { l with items := l.items.modify place fun i => if ids.contains i.id then changes.apply i else i }

/-- An update that changes a library item by item, and that keeps what it has written so far if it
fails. -/
def updateInPlace (now : Time.Instant) (f : Filter) (changes : Changes) :
    ExceptT StoreError (StateM Library) Nat := do
  let l ← get
  let ids := (← l.matchingIds now f).eraseDups
  unless changes.isEmpty do
    (List.range l.items.length).forM fun place => modify (writeAt changes ids place)
  return ids.length

variable {changes : Changes}

lemma foldl_modify {α : Type} (f : α → α) (xs : List α) :
    (List.range xs.length).foldl (fun ys place => ys.modify place f) xs = xs.map f := by
  have hfirst : ∀ n k : Nat, ((List.range n).foldl (fun ys place => ys.modify place f) xs)[k]? =
      xs[k]?.map fun x => if k < n then f x else x := by
    intro n k
    induction n with
    | zero => simp
    | succ n ih =>
      rw [List.range_succ, List.foldl_append, List.foldl_cons, List.foldl_nil,
        List.getElem?_modify, ih, Option.map_eq_map, Option.map_map]
      congr 1
      funext x
      rcases Nat.lt_trichotomy k n with hlt | rfl | hgt
      · have hne : n ≠ k := by omega
        simp [hlt, hne, Nat.lt_succ_of_lt hlt]
      · simp
      · have hne : n ≠ k := by omega
        have hlater : ¬k < n + 1 := by omega
        simp [hne, hlater, Nat.lt_asymm hgt]
  refine List.ext_getElem? fun k => ?_
  rw [hfirst, List.getElem?_map]
  by_cases hk : k < xs.length
  · simp [hk]
  · simp [hk]

lemma foldl_writeAt (ids : List String) (places : List Nat) (l : Library) :
    places.foldl (fun l place => writeAt changes ids place l) l =
      { l with items := places.foldl (fun items place => items.modify place fun i =>
        if ids.contains i.id then changes.apply i else i) l.items } := by
  induction places generalizing l with
  | nil => rfl
  | cons place places ih => exact ih (writeAt changes ids place l)

section Run

variable {α : Type} (l : Library)

lemma run_get_bind (k : Library → ExceptT StoreError (StateM Library) α) :
    (get >>= k).run l = (k l).run l := rfl

lemma run_liftM_bind (x : Except StoreError α) {β : Type}
    (k : α → ExceptT StoreError (StateM Library) β) :
    (liftM x >>= k).run l = match x with
      | .ok a => (k a).run l
      | .error e => (.error e, l) := by
  cases x <;> rfl

lemma run_forM_modify_bind (g : Nat → Library → Library) (places : List Nat)
    (k : PUnit → ExceptT StoreError (StateM Library) α) :
    ((places.forM fun place => modify (g place)) >>= k).run l =
      (k ⟨⟩).run (places.foldl (fun l place => g place l) l) := by
  induction places generalizing l with
  | nil => rfl
  | cons place places ih => exact ih (g place l)

end Run

/-- The update of a library in place comes to the same as the update, and it writes nothing if it
fails. -/
theorem run_updateInPlace (l : Library) :
    (updateInPlace now f changes).run l =
      match l.update now f changes with
      | .ok (after, n) => (.ok n, after)
      | .error e => (.error e, l) := by
  rw [updateInPlace, run_get_bind, run_liftM_bind, update]
  cases l.matchingIds now f with
  | error e => rfl
  | ok ids =>
    dsimp only [bind, Except.bind]
    split
    · rfl
    · refine (run_forM_modify_bind l (writeAt changes ids.eraseDups) _ _).trans ?_
      rw [foldl_writeAt, foldl_modify]
      rfl

/-- On every item a filter fails just with the fault of its first reference that has one. With a
faulty filter all calls to a library that holds an item fail, with this fault, and an update in
place has then written nothing. With any other filter none of them fails, but that a selection does
for a rank column, if it accepts an item, or for a sort key. -/
theorem calls_fail_together (f : Filter) :
    f.demands.map (·.name) = referencesOf f.predicate ∧
    (∀ e, f.fault? = some e ↔ ∃ before r after, f.demands = before ++ r :: after ∧
      (∀ q ∈ before, ∃ v, f.parameters.get? q.name = some v ∧ q.kind.admits v = true) ∧
      (f.parameters.get? r.name = none ∧ e = .unbound r.name ∨
        ∃ v, f.parameters.get? r.name = some v ∧ r.kind.admits v = false ∧
          e = .wrongType r.name)) ∧
    (∀ now i e, f.accepts now i = .error e ↔ f.fault? = some e) ∧
    ∀ (l : Library) (now : Time.Instant), l.items ≠ [] →
      (∀ e, f.fault? = some e →
        l.count now f = .error e ∧ l.matchingIds now f = .error e ∧
        (∀ changes, l.update now f changes = .error e ∧
          (updateInPlace now f changes).run l = (.error e, l)) ∧
        ∀ ranks sort offset limit, l.select now ⟨f, ranks, sort, offset, limit⟩ = .error e) ∧
      (f.fault? = none →
        (∃ n, l.count now f = .ok n) ∧ (∃ ids, l.matchingIds now f = .ok ids) ∧
        (∀ changes, ∃ after n, l.update now f changes = .ok (after, n) ∧
          (updateInPlace now f changes).run l = (.ok n, after)) ∧
        ∃ accepted, l.matching now f = .ok accepted ∧ ∀ ranks sort offset limit,
          let s : Selection := ⟨f, ranks, sort, offset, limit⟩
          (l.select now s).error? =
            (if accepted.isEmpty then none
              else f.parameters.fault? (ranks.map RankColumn.demand)).or
            (s.unknownKey?.map .noSuchColumn)) := by
  refine ⟨?_, fun e => ?_, fun now i e => ?_, fun l now hitems => ?_⟩
  · obtain ⟨predicate, ps⟩ := f
    cases predicate with
    | none => rfl
    | some p => exact p.demands_names
  · simp only [Filter.fault?, Parameters.fault?_eq_some_iff, Reference.fault?_eq_none_iff,
      Reference.fault?_eq_some_iff]
  · rw [← Except.error?_eq_some_iff, f.error?_accepts]
  · have hmatching : (l.matching now f).error? = f.fault? := by
      rw [error?_matching, if_neg (by simpa using hitems)]
    have hcount := (error?_count l now f).trans hmatching
    have hids := (error?_matchingIds l now f).trans hmatching
    have hupdate := fun changes => (error?_update l now f changes).trans hmatching
    constructor
    · intro e hfault
      rw [hfault] at hmatching hcount hids hupdate
      refine ⟨Except.error?_eq_some_iff.mp hcount, Except.error?_eq_some_iff.mp hids,
        fun changes => ?_, fun ranks sort offset limit => ?_⟩
      · have hfails := Except.error?_eq_some_iff.mp (hupdate changes)
        refine ⟨hfails, ?_⟩
        rw [run_updateInPlace, hfails]
      · exact select_of_matching_error (Except.error?_eq_some_iff.mp hmatching)
    · intro hfault
      rw [hfault] at hmatching hcount hids hupdate
      obtain ⟨accepted, haccepted⟩ := Except.error?_eq_none_iff.mp hmatching
      refine ⟨Except.error?_eq_none_iff.mp hcount, Except.error?_eq_none_iff.mp hids,
        fun changes => ?_, accepted, haccepted, fun ranks sort offset limit => ?_⟩
      · obtain ⟨⟨after, n⟩, hupdated⟩ := Except.error?_eq_none_iff.mp (hupdate changes)
        refine ⟨after, n, hupdated, ?_⟩
        rw [run_updateInPlace, hupdated]
      · exact error?_select haccepted

/-- A list stands where a text is asked for, beside a test that is true and over a column that is
null. The other filter has no fault, but a selection ranks by a name that is not bound. -/
theorem calls_fail_together_null_column :
    let i := Item.saved "a" "u1" "Notes" .epoch
    let l : Library := { items := [i] }
    let f : Filter :=
      ⟨some (.or (.test (.isNull .archivedAt))
          (.and (.not (.test (.iLike .author "q_0"))) (.test (.equals .title "ghost_0")))),
        ⟨[⟨"q_0", .list ["x"]⟩]⟩⟩
    let g : Filter := ⟨some (.test (.iLike .title "q_0")), ⟨[⟨"q_0", .text "%note%"⟩]⟩⟩
    let changes : Changes := { folder := some "later" }
    l.items ≠ [] ∧ f.fault? = some (.wrongType "q_0") ∧
    f.accepts .epoch i = .error (.wrongType "q_0") ∧
    l.count .epoch f = .error (.wrongType "q_0") ∧
    (updateInPlace .epoch f changes).run l = (.error (.wrongType "q_0"), l) ∧
    g.fault? = none ∧
    (∃ after, l.update .epoch g changes = .ok (after, 1) ∧
      (updateInPlace .epoch g changes).run l = (.ok 1, after) ∧
      after.items.map (·.folder) = ["later"]) ∧
    (l.select .epoch ⟨g, [⟨.search, "ghost_0", "rank_0"⟩], [], 0, 10⟩).error? =
      some (.unbound "ghost_0") := by
  intro i l f g changes
  obtain ⟨-, -, haccepts, hcalls⟩ := calls_fail_together f
  obtain ⟨-, -, -, hothers⟩ := calls_fail_together g
  have hitems : l.items ≠ [] := by simp [l]
  have hf : f.fault? = some (.wrongType "q_0") := by decide
  have hg : g.fault? = none := by decide
  obtain ⟨hcount, -, hupdate, -⟩ := (hcalls l .epoch hitems).1 _ hf
  obtain ⟨-, -, hupdated, accepted, haccepted, hselect⟩ := (hothers l .epoch hitems).2 hg
  have hone : (l.matching .epoch g).toOption.map (·.length) = some 1 := by decide +kernel
  have hwritten : (l.update .epoch g changes).toOption.map
      (fun answer => (answer.1.items.map (·.folder), answer.2)) = some (["later"], 1) := by
    decide +kernel
  obtain ⟨after, n, hafter, hrun⟩ := hupdated changes
  rw [hafter] at hwritten
  obtain ⟨hfolder, rfl⟩ := Prod.mk.inj (Option.some.inj hwritten)
  refine ⟨hitems, hf, (haccepts _ _ _).mpr hf, hcount, (hupdate changes).2, hg,
    ⟨after, hafter, hrun, hfolder⟩, ?_⟩
  rw [haccepted] at hone
  have hlength : accepted.length = 1 := Option.some.inj hone
  have hne : accepted.isEmpty = false := by
    cases accepted with
    | nil => cases hlength
    | cons => rfl
  rw [hselect, hne]
  rfl

end Library

end ReadLater
