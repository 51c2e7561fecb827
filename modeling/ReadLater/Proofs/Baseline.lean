import ReadLater.Proofs.Compilation
import ReadLater.Search.Visibility

/-!
# The restriction to visible items

The tests that every filter starts with: the owner of an item, and the states that are hidden. They
decide each item, and bind their values after those of the query.
-/

namespace ReadLater

lemma ItemState.name_injective {s t : ItemState} (h : s.name = t.name) : s = t := by
  cases s <;> cases t <;> first | rfl | exact absurd h (by decide)

lemma Filter.accepts_of_truth {f : Filter} {p : Predicate} {clock : Time.Instant} {i : Item}
    {t : Truth} (hp : f.predicate = some p) (h : p.truth f.parameters clock i = .ok t) :
    f.accepts clock i = .ok (t == some true) := by
  rw [accepts, hp]
  dsimp only
  rw [h]
  rfl

/-- With its own parameters and any that come after them, the predicate is known of every item. -/
structure Decides (base : Predicate × Parameters) (holds : Item → Bool) : Prop where
  numbered : base.2.Numbered
  truth : ∀ ps : Parameters, ps.Numbered → base.2.entries <+: ps.entries →
    ∀ clock i, base.1.truth ps clock i = .ok (some (holds i))

lemma text_of_bound {ps qs : Parameters} {stem s : String} (hqs : qs.Numbered)
    (h : (ps.bind stem (.text s)).entries <+: qs.entries) : qs.text (ps.nextName stem) = .ok s := by
  have hmem : (⟨ps.nextName stem, .text s⟩ : Parameter) ∈ qs.entries :=
    h.subset (by simp [Parameters.bind])
  simp [Parameters.text, hqs.get?_of_mem hmem]

lemma ownedBy_decides {ps : Parameters} (hps : ps.Numbered) (userId : String) :
    Decides (ownedBy ps userId) fun i => i.userId == userId where
  numbered := hps.bind _ _
  truth := by
    intro qs hqs hext clock i
    simp only [ownedBy, Predicate.truth, Condition.truth, text_of_bound hqs hext]
    rfl

lemma hide_decides {base : Predicate × Parameters} {holds : Item → Bool} (h : Decides base holds)
    (s : ItemState) : Decides (hide base s) fun i => holds i && i.state != s where
  numbered := h.numbered.bind _ _
  truth := by
    intro qs hqs hext clock i
    have hbase := h.truth qs hqs ((List.prefix_append _ _).trans hext) clock i
    have hstate : (i.state.name != s.name) = (i.state != s) := by
      rw [Bool.eq_iff_iff, bne_iff_ne, bne_iff_ne]
      exact not_congr ⟨ItemState.name_injective, congrArg ItemState.name⟩
    simp only [hide, Predicate.truth, Condition.truth, text_of_bound hqs hext, hbase]
    change Except.ok (Truth.and (some (holds i)) (some (i.state.name != s.name))) = _
    rw [hstate]
    cases holds i <;> cases i.state != s <;> rfl

lemma foldl_hide_decides {base : Predicate × Parameters} {holds : Item → Bool}
    (h : Decides base holds) (states : List ItemState) :
    Decides (states.foldl hide base) fun i => holds i && states.all fun s => i.state != s := by
  induction states generalizing base holds with
  | nil => simpa using h
  | cons s states ih => simpa [Bool.and_assoc] using ih (hide_decides h s)

lemma foldl_hide_extends (base : Predicate × Parameters) (states : List ItemState) :
    base.2.entries <+: (states.foldl hide base).2.entries := by
  induction states generalizing base with
  | nil => exact List.prefix_rfl
  | cons s states ih => exact (List.prefix_append _ _).trans (ih (hide base s))

namespace Compiled

variable (c : Compiled) (userId : String) (v : Visibility)

/-- The tests that come before those of the query. -/
def baseline : Predicate × Parameters :=
  (v.hidden c.trash).foldl hide (ownedBy c.parameters userId)

/-- The baseline lets the item through. -/
def admits (i : Item) : Bool :=
  i.userId == userId && (v.hidden c.trash).all fun s => i.state != s

@[simp] lemma visibleTo_parameters :
    (c.visibleTo userId v).parameters = (c.baseline userId v).2 := by
  unfold visibleTo baseline
  cases c.predicate <;> rfl

lemma visibleTo_predicate :
    (c.visibleTo userId v).predicate = some
      (match c.predicate with
      | some p => .and (c.baseline userId v).1 (.group p)
      | none => (c.baseline userId v).1) := by
  unfold visibleTo baseline
  cases c.predicate <;> rfl

lemma visibleTo_congr {d : Compiled} (hpredicate : d.predicate = c.predicate)
    (hparameters : d.parameters = c.parameters) (htrash : d.trash = c.trash) :
    d.visibleTo userId v = c.visibleTo userId v := by
  simp only [visibleTo, hpredicate, hparameters, htrash]

variable {c}

lemma baseline_decides (h : c.parameters.Numbered) :
    Decides (c.baseline userId v) (c.admits userId v) :=
  foldl_hide_decides (ownedBy_decides h userId) _

lemma visibleTo_numbered (h : c.parameters.Numbered) :
    (c.visibleTo userId v).parameters.Numbered := by
  rw [visibleTo_parameters]
  exact (baseline_decides userId v h).numbered

lemma visibleTo_extends :
    c.parameters.entries <+: (c.visibleTo userId v).parameters.entries := by
  rw [visibleTo_parameters]
  exact (List.prefix_append _ _).trans (foldl_hide_extends (ownedBy c.parameters userId) _)

/-- An item passes when the baseline admits it and it passes the filter of the query alone. -/
theorem visibleTo_accepts_iff (h : c.parameters.Numbered) (clock : Time.Instant) (i : Item) :
    (c.visibleTo userId v).accepts clock i = .ok true ↔
      c.admits userId v i = true ∧
        Filter.accepts ⟨c.predicate, (c.visibleTo userId v).parameters⟩ clock i = .ok true := by
  have hext : (c.baseline userId v).2.entries <+: (c.visibleTo userId v).parameters.entries :=
    c.visibleTo_parameters userId v ▸ List.prefix_rfl
  have hbase := (baseline_decides userId v h).truth _ (visibleTo_numbered userId v h) hext clock i
  have hpredicate := c.visibleTo_predicate userId v
  cases hp : c.predicate with
  | none =>
    rw [hp] at hpredicate
    rw [Filter.accepts_of_truth hpredicate hbase]
    cases c.admits userId v i <;> simp [Filter.accepts]
  | some p =>
    rw [hp] at hpredicate
    simp only [Filter.accepts, hpredicate, Predicate.truth, hbase, bind, Except.bind]
    cases htruth : p.truth (c.visibleTo userId v).parameters clock i with
    | error e => simp
    | ok t =>
      simp only [pure, Except.pure]
      cases c.admits userId v i <;> rcases t with _ | _ | _ <;> decide

lemma text_of_mem_ranks {options : CompileOptions} {q : Query} (h : q.compile options = .ok c)
    {r : RankColumn} (hr : r ∈ c.ranks) :
    ∃ text, (c.visibleTo userId v).parameters.text r.query = .ok text := by
  obtain ⟨acc, hcompiles, hparameters, hranks, -⟩ := Query.compiles_of_compile h
  have hbound : acc.RanksBound := hcompiles.ranksBound (by simp [Accumulator.RanksBound])
  obtain ⟨text, hmem⟩ := hbound r (hranks ▸ hr)
  rw [← hparameters] at hmem
  have hvalue := (visibleTo_numbered userId v (Query.numbered_of_compile h)).get?_of_mem
    ((visibleTo_extends userId v).subset hmem)
  exact ⟨text, by rw [Parameters.text, hvalue]⟩

end Compiled

end ReadLater
