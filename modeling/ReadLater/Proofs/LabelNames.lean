import ReadLater.Proofs.LabelLinks
import ReadLater.Proofs.TextTags

/-!
# Names of labels

An item holds the names of its labels beside the links to them. The names stay in step with the
links under every write, so that the items that a request adds labels to are found by these labels.
-/

namespace ReadLater

namespace Label

/-- The name can stand in a tag as it is. -/
structure IsTaggable (label : Label) : Prop where
  nonblank : label.name ≠ ""
  trimmed : Text.trim label.name = label.name
  plain : ∀ c ∈ [',', '*', '"'], c ∉ label.name.toList

/-- The query for the items with a label. -/
def tag (label : Label) : String :=
  "label:\"" ++ label.name ++ "\""

variable {label : Label}

/-- The tag finds the items of which some label, or label of a highlight, has the name in any letter
case. -/
theorem IsTaggable.exists_compile (h : label.IsTaggable) (options : CompileOptions) :
    ∃ c, Query.compileText options label.tag = .ok c ∧ ∀ (clock : Time.Instant) (i : Item),
      ∃ b, c.filter.accepts clock i = .ok b ∧
        (b = true ↔ ∃ name ∈ i.labelNames ++ i.highlightLabels,
          Text.lower name = Text.lower label.name) := by
  have hsubset : [',', '"'] ⊆ [',', '*', '"'] := by simp
  have hplain : ∀ c ∈ [',', '"'], c ∉ label.name.toList := fun c hc => h.plain c (hsubset hc)
  have hfound := Query.Tag.exists_compileText_label h.nonblank h.trimmed hplain options
  simp only [Item.HasLabel, LabelMatches, if_neg (h.plain '*' (by simp))] at hfound
  exact hfound

lemma IsTaggable.accepts (h : label.IsTaggable) (options : CompileOptions) :
    ∃ c, Query.compileText options label.tag = .ok c ∧ ∀ (clock : Time.Instant) (i : Item),
      label.name ∈ i.labelNames → c.filter.accepts clock i = .ok true := by
  obtain ⟨c, hcompile, hfinds⟩ := h.exists_compile options
  refine ⟨c, hcompile, fun clock i hname => ?_⟩
  obtain ⟨b, hb, hiff⟩ := hfinds clock i
  rwa [hiff.mpr ⟨label.name, List.mem_append_left _ hname, rfl⟩] at hb

end Label

namespace Library

variable {l after : Library} {clock : Time.Instant} {s : SearchSettings} {now : Time.Moment}
  {b : BulkRequest} {f : Filter} {result : BulkResult} {link : LabelLink} {labelIds : List String}

/-- Every link whose label and item are there has the name of the label among those of the item. -/
def InStep (l : Library) : Prop :=
  ∀ link ∈ l.links, ∀ label ∈ l.labels, label.id = link.labelId →
    ∀ i ∈ l.items, i.id = link.itemId → label.name ∈ i.labelNames

instance (l : Library) : Decidable l.InStep :=
  inferInstanceAs (Decidable (∀ link ∈ l.links, ∀ label ∈ l.labels, label.id = link.labelId →
    ∀ i ∈ l.items, i.id = link.itemId → label.name ∈ i.labelNames))

/-- Names stay, so that just the new links have to be looked at. -/
lemma GrowsTo.inStep (hgrows : l.GrowsTo after) (h : l.InStep)
    (hnew : ∀ link ∈ after.links, link ∉ l.links → ∀ label ∈ l.labels, label.id = link.labelId →
      ∀ j ∈ after.items, j.id = link.itemId → label.name ∈ j.labelNames) : after.InStep := by
  intro link hlink label hlabel hlabelId j hj hitemId
  rw [hgrows.labels] at hlabel
  by_cases hold : link ∈ l.links
  · obtain ⟨i, hi, hij⟩ := exists_of_forall₂ hgrows.items hj
    have hname := h link hold label hlabel hlabelId i hi (hij.id.symm.trans hitemId)
    exact hij.names.subset hname
  · exact hnew link hlink hold label hlabel hlabelId j hj hitemId

lemma mem_nameItem {itemId name : String} {items : List Item}
    (hids : (items.map (·.id)).Nodup) {j : Item} (hj : j ∈ nameItem itemId name items)
    (hid : j.id = itemId) : name ∈ j.labelNames := by
  induction items with
  | nil => cases hj
  | cons i rest ih =>
    obtain ⟨hfresh, hrest⟩ := List.nodup_cons.mp hids
    rw [nameItem] at hj
    by_cases hi : i.id = itemId
    · rw [if_pos hi] at hj
      rcases List.mem_cons.mp hj with rfl | hmem
      · split_ifs with hnamed
        · exact List.contains_iff_mem.mp hnamed
        · exact List.mem_append_right _ List.mem_cons_self
      · exact absurd (List.mem_map.mpr ⟨j, hmem, hid.trans hi.symm⟩) hfresh
    · rw [if_neg hi] at hj
      rcases List.mem_cons.mp hj with rfl | hmem
      · exact absurd hid hi
      · exact ih hrest hmem

lemma find_label (hlabels : (l.labels.map (·.id)).Nodup) {label : Label}
    (hlabel : label ∈ l.labels) :
    (l.labels.find? fun x => x.id == label.id) = some label := by
  cases hfind : l.labels.find? fun x => x.id == label.id with
  | none => exact absurd (beq_self_eq_true label.id) (List.find?_eq_none.mp hfind label hlabel)
  | some found =>
    have hid : found.id = label.id := by simpa using List.find?_some hfind
    rw [List.inj_on_of_nodup_map hlabels (List.mem_of_find?_eq_some hfind) hlabel hid]

lemma InStep.insertLink (h : l.InStep) (hitems : (l.items.map (·.id)).Nodup)
    (hlabels : (l.labels.map (·.id)).Nodup) (link : LabelLink) : (l.insertLink link).InStep := by
  refine (l.growsTo_insertLink link).inStep h ?_
  intro x hx hnew label hlabel hlabelId j hj hitemId
  obtain rfl : x = link := (mem_links_insertLink.mp hx).resolve_right hnew
  rw [insertLink_of_not_mem hnew, ← hlabelId, find_label hlabels hlabel] at hj
  exact mem_nameItem hitems hj hitemId

theorem InStep.insertLinks (h : l.InStep) (hitems : (l.items.map (·.id)).Nodup)
    (hlabels : (l.labels.map (·.id)).Nodup) (links : List LabelLink) :
    (l.insertLinks links).1.InStep := by
  induction links generalizing l with
  | nil => exact h
  | cons link links ih =>
    have hgrows := l.growsTo_insertLink link
    rw [insertLinks_cons]
    exact ih (h.insertLink hitems hlabels link) (by rwa [hgrows.ids]) (by rwa [hgrows.labels])

lemma InStep.update (h : l.InStep) {changes : Changes} {n : Nat}
    (hupdate : l.update clock f changes = .ok (after, n)) : after.InStep := by
  refine (growsTo_update hupdate).inStep h ?_
  intro link hlink hnew
  obtain ⟨items, -, -, rfl⟩ := update_eq_ok_iff.mp hupdate
  exact absurd hlink hnew

theorem InStep.bulk (h : l.InStep) (hitems : (l.items.map (·.id)).Nodup)
    (hlabels : (l.labels.map (·.id)).Nodup) (hbulk : l.bulk clock s b now = .ok (after, result)) :
    after.InStep := by
  rcases bulk_cases hbulk with ⟨labelIds, hadd⟩ | ⟨changes, f, n, -, -, hupdate, -⟩
  · obtain ⟨f, items, -, -, -, -, rfl, -⟩ := addLabels_of_bulk hadd hbulk
    exact h.insertLinks hitems hlabels _
  · exact h.update hupdate

theorem InStep.afterBulks (h : l.InStep) (hitems : (l.items.map (·.id)).Nodup)
    (hlabels : (l.labels.map (·.id)).Nodup) (calls : List BulkCall) :
    (l.afterBulks calls).InStep ∧ l.GrowsTo (l.afterBulks calls) := by
  induction calls generalizing l with
  | nil => exact ⟨h, .refl l⟩
  | cons c calls ih =>
    have hstep : (l.afterBulk c).InStep ∧ l.GrowsTo (l.afterBulk c) := by
      cases hbulk : l.bulk c.clock c.settings c.request c.now with
      | error e =>
        rw [afterBulk, hbulk]
        exact ⟨h, .refl l⟩
      | ok answer =>
        rw [afterBulk, hbulk]
        exact ⟨h.bulk hitems hlabels hbulk, growsTo_bulk hbulk⟩
    obtain ⟨hafter, hgrows⟩ := hstep
    obtain ⟨hafters, hgrows'⟩ := ih hafter (by rwa [hgrows.ids]) (by rwa [hgrows.labels])
    exact ⟨hafters, hgrows.trans hgrows'⟩

/-- In a library whose names are in step, every item that labels are added to has their names, and
is found by their tags. -/
lemma InStep.labelled_of_bulk (hafter : after.InStep) (hadd : b.action = .addLabels labelIds)
    (h : l.bulk clock s b now = .ok (after, result)) {items : List Item}
    (hf : b.filter s now = .ok f) (hmatching : l.matching clock f = .ok items) {j : Item}
    (hj : j ∈ after.items) (hmatched : j.id ∈ items.map (·.id)) {labelId : String}
    (hlabelId : labelId ∈ labelIds) :
    ∃ label ∈ l.labels, label.id = labelId ∧ label.userId = b.userId ∧
      label.name ∈ j.labelNames ∧
      (label.IsTaggable → ∀ options : CompileOptions,
        ∃ c, Query.compileText options label.tag = .ok c ∧
          ∀ clock' : Time.Instant, c.filter.accepts clock' j = .ok true) := by
  have hlinked := linked_of_bulk hadd h hf hmatching hmatched hlabelId
  obtain ⟨-, -, -, -, hhas, -⟩ := addLabels_of_bulk hadd h
  obtain ⟨label, hlabel, howner, rfl⟩ := hhas labelId hlabelId
  have hstays : label ∈ after.labels := by
    rw [(growsTo_bulk h).labels]
    exact hlabel
  have hname := hafter _ hlinked label hstays rfl j hj rfl
  refine ⟨label, hlabel, rfl, howner, hname, fun htaggable options => ?_⟩
  obtain ⟨c, hcompile, haccepts⟩ := htaggable.accepts options
  exact ⟨c, hcompile, fun clock' => haccepts clock' j hname⟩

/-- If ids are not shared, the names of labels stay in step with the links under every insertion of
links, every update and every bulk request, and over any sequence of requests. Nothing of the names
and the links is lost or moved, no link is added twice, and what is reported is the number of links
added. After labels are added, every matched item has their names and is found by their tags. -/
theorem names_in_step (hitems : (l.items.map (·.id)).Nodup)
    (hlabels : (l.labels.map (·.id)).Nodup) (h : l.InStep) :
    (∀ links : List LabelLink,
      (l.insertLinks links).1.InStep ∧ l.GrowsTo (l.insertLinks links).1 ∧
        (l.insertLinks links).1.links.length = l.links.length + (l.insertLinks links).2) ∧
    (∀ (clock : Time.Instant) (f : Filter) (changes : Changes) (after : Library) (n : Nat),
      l.update clock f changes = .ok (after, n) → after.InStep ∧ l.GrowsTo after) ∧
    (∀ calls : List BulkCall, (l.afterBulks calls).InStep ∧ l.GrowsTo (l.afterBulks calls)) ∧
    ∀ (clock : Time.Instant) (s : SearchSettings) (b : BulkRequest) (now : Time.Moment)
      (after : Library) (result : BulkResult), l.bulk clock s b now = .ok (after, result) →
      after.InStep ∧ l.GrowsTo after ∧ ∀ labelIds, b.action = .addLabels labelIds →
        after.links.length = l.links.length + result.affected ∧
        ∃ f items, b.filter s now = .ok f ∧ l.matching clock f = .ok items ∧
          result.matched = items.length ∧
          ∀ j ∈ after.items, j.id ∈ items.map (·.id) → ∀ labelId ∈ labelIds,
            ∃ label ∈ l.labels, label.id = labelId ∧ label.userId = b.userId ∧
              label.name ∈ j.labelNames ∧
              (label.IsTaggable → ∀ options : CompileOptions,
                ∃ c, Query.compileText options label.tag = .ok c ∧
                  ∀ clock' : Time.Instant, c.filter.accepts clock' j = .ok true) := by
  refine ⟨fun links => ?_, fun clock f changes after n hupdate => ?_,
    fun calls => h.afterBulks hitems hlabels calls,
    fun clock s b now after result hbulk => ⟨h.bulk hitems hlabels hbulk, growsTo_bulk hbulk,
      fun labelIds hadd => ?_⟩⟩
  · exact ⟨h.insertLinks hitems hlabels links, growsTo_insertLinks l links,
      length_links_insertLinks l links⟩
  · exact ⟨h.update hupdate, growsTo_update hupdate⟩
  · obtain ⟨f, items, hf, hmatching, -, hmatched, -, hcount⟩ := addLabels_of_bulk hadd hbulk
    have hafter := h.bulk hitems hlabels hbulk
    exact ⟨hcount, f, items, hf, hmatching, hmatched, fun j hj hid labelId hlabelId =>
      hafter.labelled_of_bulk hadd hbulk hf hmatching hj hid hlabelId⟩

/-- Two labels, one with a final sigma and one whose name has a star, for two items of which one
has the first label already; an insertion that repeats a link and names unknown ids. -/
theorem names_in_step_two_labels :
    let now : Time.Instant := .ofSeconds 1710498600
    let l : Library :=
      { items := [{ Item.saved "a" "u1" "Notes" .epoch with labelNames := ["ΦΩΣ"] },
          Item.saved "b" "u1" "Notes" .epoch]
        labels := [⟨"x", "u1", "ΦΩΣ"⟩, ⟨"y", "u1", "five*"⟩]
        links := [⟨"x", "a"⟩, ⟨"z", "c"⟩] }
    let b : BulkRequest := ⟨"u1", "notes", .addLabels ["x", "y"], false⟩
    l.InStep ∧ (l.insertLinks [⟨"y", "c"⟩, ⟨"x", "b"⟩, ⟨"y", "c"⟩]).1.InStep ∧
      ∃ after, l.bulk now {} b ⟨now, 0⟩ = .ok (after, ⟨2, 3⟩) ∧ after.InStep ∧
        after.links.length = 5 ∧ ∀ j ∈ after.items, "five*" ∈ j.labelNames ∧
          ∃ c, Query.compileText ⟨false, ⟨now, 0⟩, .monday⟩ "label:\"ΦΩΣ\"" = .ok c ∧
            c.filter.accepts now j = .ok true := by
  intro now l b
  have hitems : (l.items.map (·.id)).Nodup := by decide +kernel
  have hlabels : (l.labels.map (·.id)).Nodup := by decide +kernel
  have hinstep : l.InStep := by decide +kernel
  have hcounts : (l.bulk now {} b ⟨now, 0⟩).toOption.map
      (fun answer => (answer.2, answer.1.items.map (·.id))) = some (⟨2, 3⟩, ["a", "b"]) := by
    decide +kernel
  have hfilter : (b.filter {} ⟨now, 0⟩).toOption.map
      (fun f => (l.matching now f).toOption.map fun items => items.map (·.id)) =
      some (some ["a", "b"]) := by decide +kernel
  obtain ⟨hinsert, -, -, hbulk⟩ := names_in_step hitems hlabels hinstep
  obtain ⟨⟨after, result⟩, hafter, hanswer⟩ := Except.exists_of_toOption hcounts
  obtain ⟨rfl, hids⟩ := Prod.mk.inj hanswer
  obtain ⟨hstep, -, hadded⟩ := hbulk now {} b ⟨now, 0⟩ after ⟨2, 3⟩ hafter
  obtain ⟨hlinks, f, items, hf, hmatching, -, hlabelled⟩ := hadded ["x", "y"] rfl
  obtain ⟨g, hg, hmatched⟩ := Except.exists_of_toOption hfilter
  cases hf.symm.trans hg
  rw [hmatching] at hmatched
  have hmatchedIds : items.map (·.id) = ["a", "b"] := Option.some.inj hmatched
  refine ⟨hinstep, (hinsert _).1, after, hafter, hstep, hlinks, fun j hj => ?_⟩
  have hid : j.id ∈ items.map (·.id) := by
    rw [hmatchedIds, ← hids]
    exact List.mem_map_of_mem hj
  obtain ⟨y, hy, hyid, -, hyname, -⟩ := hlabelled j hj hid "y" (by simp)
  obtain ⟨x, hx, hxid, -, -, hxtag⟩ := hlabelled j hj hid "x" (by simp)
  have hnames : ∀ label ∈ l.labels, (label.id = "y" → label.name = "five*") ∧
      (label.id = "x" → label = ⟨"x", "u1", "ΦΩΣ"⟩) := by decide +kernel
  refine ⟨(hnames y hy).1 hyid ▸ hyname, ?_⟩
  have hxlabel := (hnames x hx).2 hxid
  subst hxlabel
  have htaggable : Label.IsTaggable ⟨"x", "u1", "ΦΩΣ"⟩ :=
    ⟨by simp, rfl, by simp⟩
  have htag : Label.tag ⟨"x", "u1", "ΦΩΣ"⟩ = "label:\"ΦΩΣ\"" := by decide +kernel
  obtain ⟨c, hcompile, haccepts⟩ := hxtag htaggable ⟨false, ⟨now, 0⟩, .monday⟩
  rw [htag] at hcompile
  exact ⟨c, hcompile, haccepts now⟩

end Library

end ReadLater
