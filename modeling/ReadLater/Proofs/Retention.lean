import ReadLater.Proofs.BulkRuns
import ReadLater.Proofs.SearchRuns

/-!
# How long a deleted item stays in the trash

A bulk deletion writes its time to the items that it matches. From then on searches that skip the
trash pass these items by, and `in:trash` finds them until the clock of the library is more than
the days of the trash ahead of that time.
-/

namespace ReadLater

/-- What `in:trash` is compiled to. -/
def Compiled.inTrash : Compiled where
  predicate := some (.test (.withinDays .deletedAt TagOperand.trashDays))
  parameters := .empty
  ranks := []
  sort := []
  trash := true

lemma SearchSettings.compile_inTrash (s : SearchSettings) (useFolders : Bool)
    (now : Time.Moment) : s.compile "in:trash" useFolders now = .ok .inTrash := by
  have hparse : Query.parse "in:trash" =
      .ok (.tag ⟨.named "in" false, .literal (.string "trash") false⟩) := rfl
  unfold SearchSettings.compile Query.compileText
  rw [hparse]
  rfl

namespace Compiled

variable {userId : String} {v : Visibility} {clock : Time.Instant} {i : Item}

lemma inTrash_admits_iff : inTrash.admits userId v i = true ↔
    i.userId = userId ∧ (i.state = .processing → v.includePending = true) := by
  unfold admits Visibility.hidden
  cases v.includePending <;> simp [inTrash]

/-- `in:trash` finds the items of the user that are still in the trash. -/
theorem inTrash_accepts_iff : (inTrash.visibleTo userId v).accepts clock i = .ok true ↔
    i.userId = userId ∧ (i.state = .processing → v.includePending = true) ∧
      i.Retained clock := by
  have htest : ∀ ps, Filter.accepts ⟨inTrash.predicate, ps⟩ clock i = .ok true ↔
      i.Retained clock := by
    intro ps
    have hcutoff : Condition.cutoff clock TagOperand.trashDays = clock.addDays (-14) := rfl
    simp only [Filter.accepts, inTrash, Predicate.truth, Condition.truth, hcutoff, Item.value,
      Item.Retained, bind, Except.bind, pure, Except.pure, Except.ok.injEq]
    cases i.deletedAt with
    | none => simp [Value.ofTime?, Value.compare?]
    | some t => simp [Value.ofTime?, Value.compare?]
  rw [visibleTo_accepts_iff userId v Parameters.numbered_empty, inTrash_admits_iff, htest,
    and_assoc]

end Compiled

lemma Item.retained_iff {i : Item} {t clock : Time.Instant} (h : i.deletedAt = some t) :
    i.Retained clock ↔ t.compare (clock.addDays (-14)) ≠ .lt := by
  simp [Retained, h]

/-- The search starts with the first page of `in:trash`. -/
structure SearchRequest.ForTrash (r : SearchRequest) (userId : String) : Prop where
  userId : r.userId = userId
  query : r.query = "in:trash"
  start : r.after = none

lemma SearchRequest.ForTrash.asks {r : SearchRequest} {userId : String} (h : r.ForTrash userId)
    (s : SearchSettings) (now : Time.Moment) : r.Asks s now .inTrash where
  start := h.start
  compiled := by
    rw [h.query]
    exact s.compile_inTrash r.useFolders now
  unsorted := rfl

namespace Library

variable {l after : Library} {clock : Time.Instant} {s : SearchSettings} {now : Time.Moment}
  {r : SearchRequest} {b : BulkRequest} {userId : String} {result : BulkResult}

theorem mem_pages_inTrash_iff (h : r.ForTrash userId) {pages : List Page}
    (hpages : l.Pages clock s now r pages) {i : Item} :
    i ∈ (pages.flatMap (·.rows)).map (·.item) ↔
      i ∈ l.items ∧ i.userId = userId ∧ (i.state = .processing → r.includePending = true) ∧
        i.Retained clock := by
  rw [(hpages.perm_passing (h.asks s now)).mem_iff, List.mem_filter, Filter.passes_iff,
    Compiled.inTrash_accepts_iff, h.userId]
  rfl

lemma exists_pages_inTrash (h : r.ForTrash userId) (hlimit : 0 < s.maxPageSize)
    (hsize : l.items.length < UInt64.size) : ∃ pages, l.Pages clock s now r pages :=
  exists_pages_of_asks (h.asks s now) hlimit hsize

lemma deleted_of_reached {f : Filter} {t : Time.Instant} {i j : Item}
    (hreached : l.Reaches clock f i) (hj : j ∈ l.itemsAfter clock f .delete t)
    (hid : j.id = i.id) : j.state = .deleted ∧ j.deletedAt = some t := by
  obtain ⟨m, -, rfl⟩ := List.mem_map.mp hj
  by_cases hm : l.Reaches clock f m
  · rw [if_pos hm]
    exact ⟨rfl, rfl⟩
  · rw [if_neg hm] at hid
    obtain ⟨k, hk, hki, haccepts⟩ := hreached
    exact absurd ⟨k, hk, hki.trans hid.symm, haccepts⟩ hm

lemma deleted_mem_pages_iff {f : Filter} {t clock' : Time.Instant} {i : Item} {pages : List Page}
    (hafter : after.items = l.itemsAfter clock f .delete t) (hi : i ∈ l.items)
    (hreached : l.Reaches clock f i) (htrash : r.ForTrash i.userId)
    (hpages : after.Pages clock' s now r pages) :
    (BulkAction.delete.written t i ∈ (pages.flatMap (·.rows)).map (·.item) ↔
      t.compare (clock'.addDays (-14)) ≠ .lt) ∧
    (i.id ∈ (pages.flatMap (·.rows)).map (·.item.id) ↔
      t.compare (clock'.addDays (-14)) ≠ .lt) := by
  have hmem : BulkAction.delete.written t i ∈ after.items := by
    rw [hafter]
    exact List.mem_map.mpr ⟨i, hi, if_pos hreached⟩
  have hitem : BulkAction.delete.written t i ∈ (pages.flatMap (·.rows)).map (·.item) ↔
      t.compare (clock'.addDays (-14)) ≠ .lt := by
    rw [mem_pages_inTrash_iff htrash hpages, Item.retained_iff rfl]
    constructor
    · rintro ⟨-, -, -, hwindow⟩
      exact hwindow
    · intro hwindow
      exact ⟨hmem, rfl, fun hstate => (nomatch hstate), hwindow⟩
  refine ⟨hitem, fun hid => ?_, fun hwindow => ?_⟩
  · -- another item may stand for the id, but it was deleted along with the matched one
    obtain ⟨row, hrow, hid⟩ := List.mem_map.mp hid
    obtain ⟨hstored, -, -, hretained⟩ :=
      (mem_pages_inTrash_iff htrash hpages).mp (List.mem_map_of_mem hrow)
    have hdeleted := (deleted_of_reached hreached (hafter ▸ hstored) hid).2
    exact (Item.retained_iff hdeleted).mp hretained
  · obtain ⟨row, hrow, hsame⟩ := List.mem_map.mp (hitem.mpr hwindow)
    refine List.mem_map.mpr ⟨row, hrow, ?_⟩
    rw [hsame]
    rfl

/-- After a successful bulk deletion every matched item is in the trash. No search that skips the
trash shows its id. All pages of `in:trash` together show it, and its id, just if the deletion is
not more than the days of the trash behind the clock. -/
theorem delete_retains (haction : b.action = .delete)
    (h : l.bulk clock s b now = .ok (after, result)) :
    ∃ f, b.filter s now = .ok f ∧ ∀ (k : Nat) (i : Item), l.items[k]? = some i →
      f.accepts clock i = .ok true → ∃ j, after.items[k]? = some j ∧
        j = { i with
          state := .deleted, deletedAt := some now.instant, updatedAt := some now.instant } ∧
        (∀ (clock' : Time.Instant) (s' : SearchSettings) (now' : Time.Moment) (r : SearchRequest)
          (page : Page), r.SkipsTrash s' now' → after.search clock' s' r now' = .ok page →
          ∀ row ∈ page.rows, row.item.id ≠ i.id) ∧
        ∀ (clock' : Time.Instant) (s' : SearchSettings) (now' : Time.Moment) (r : SearchRequest),
          r.ForTrash b.userId →
          (0 < s'.maxPageSize → after.items.length < UInt64.size →
            ∃ pages, after.Pages clock' s' now' r pages) ∧
          ∀ pages, after.Pages clock' s' now' r pages →
            (j ∈ (pages.flatMap (·.rows)).map (·.item) ↔
              now.instant.compare (clock'.addDays (-14)) ≠ .lt) ∧
            (i.id ∈ (pages.flatMap (·.rows)).map (·.item.id) ↔
              now.instant.compare (clock'.addDays (-14)) ≠ .lt) := by
  obtain ⟨f, hf⟩ := exists_filter_of_bulk h
  have hassigns : ∀ labelIds, b.action ≠ .addLabels labelIds := by simp [haction]
  rw [bulk_of_filter hassigns hf, haction] at h
  cases h
  refine ⟨f, hf, fun k i hk haccepts => ?_⟩
  have hi : i ∈ l.items := List.mem_of_getElem? hk
  have hreached : l.Reaches clock f i := ⟨i, hi, rfl, haccepts⟩
  have howner : i.userId = b.userId := (shownTo_of_bulk hf haccepts).owner
  have hwritten : (l.itemsAfter clock f .delete now.instant)[k]? =
      some (BulkAction.delete.written now.instant i) := by
    rw [itemsAfter, List.getElem?_map, hk, Option.map_some, if_pos hreached]
  refine ⟨_, hwritten, rfl, fun clock' s' now' r page hskips hpage row hrow hid => ?_,
    fun clock' s' now' r htrash => ⟨exists_pages_inTrash htrash, fun pages hpages => ?_⟩⟩
  · obtain ⟨hmem, hlive⟩ := hskips.state_ne_deleted hpage hrow
    exact hlive (deleted_of_reached hreached hmem hid).1
  · rw [← howner] at htrash
    exact deleted_mem_pages_iff rfl hi hreached htrash hpages

/-- A deletion exactly fourteen days and then a second more ago: the item is shown by `in:trash` at
first, and then no more. -/
theorem delete_retains_fourteen_days :
    let now : Time.Instant := .ofSeconds 1710498600
    let later : Time.Instant := now.addDays 14
    let i := Item.saved "a" "u1" "Notes" .epoch
    let l : Library := { items := [i] }
    let b : BulkRequest := ⟨"u1", "notes", .delete, false⟩
    let r : SearchRequest := { userId := "u1", query := "in:trash" }
    let all : SearchRequest := { userId := "u1" }
    let j := { i with state := .deleted, deletedAt := some now, updatedAt := some now }
    ∃ after, l.bulk now {} b ⟨now, 0⟩ = .ok (after, ⟨1, 1⟩) ∧ after.items[0]? = some j ∧
      (∃ page, all.SkipsTrash {} ⟨now, 0⟩ ∧ after.search now {} all ⟨now, 0⟩ = .ok page ∧
        ∀ row ∈ page.rows, row.item.id ≠ "a") ∧
      (∃ pages, after.Pages later {} ⟨later, 0⟩ r pages ∧
        j ∈ (pages.flatMap (·.rows)).map (·.item)) ∧
      ∃ pages, after.Pages (later.addSeconds 1) {} ⟨later, 0⟩ r pages ∧
        "a" ∉ (pages.flatMap (·.rows)).map (·.item.id) := by
  intro now later i l b r all j
  have hbulk : (l.bulk now {} b ⟨now, 0⟩).toOption.map (fun answer => (answer.2,
      answer.1.items.length, (answer.1.search now {} all ⟨now, 0⟩).toOption.map (·.rows.length))) =
      some (⟨1, 1⟩, 1, some 0) := by decide +kernel
  have hfilter : (b.filter {} ⟨now, 0⟩).toOption.map (fun f => f.accepts now i) =
      some (.ok true) := by decide +kernel
  have hall : (({} : SearchSettings).compile "" false ⟨now, 0⟩).toOption.map (·.trash) =
      some false := by decide +kernel
  obtain ⟨⟨after, result⟩, hafter, hanswer⟩ := Except.exists_of_toOption hbulk
  simp only [Prod.mk.injEq] at hanswer
  obtain ⟨rfl, hone, hlive⟩ := hanswer
  obtain ⟨page, hpage, -⟩ := Except.exists_of_toOption hlive
  obtain ⟨f, hf, haccepts⟩ := Except.exists_of_toOption hfilter
  obtain ⟨c, hc, hclosed⟩ := Except.exists_of_toOption hall
  obtain ⟨_, hsame, hitems⟩ := delete_retains rfl hafter
  cases hf.symm.trans hsame
  obtain ⟨_, hj, rfl, hskipped, hkept⟩ := hitems 0 i rfl haccepts
  have hskips : all.SkipsTrash {} ⟨now, 0⟩ := ⟨rfl, SearchSettings.not_opensTrash hc hclosed⟩
  have hr : r.ForTrash "u1" := ⟨rfl, rfl, rfl⟩
  obtain ⟨hruns, hshown⟩ := hkept later {} ⟨later, 0⟩ r hr
  obtain ⟨hruns', hshown'⟩ := hkept (later.addSeconds 1) {} ⟨later, 0⟩ r hr
  have hsize : after.items.length < UInt64.size := by
    rw [hone]
    decide
  obtain ⟨pages, hpages⟩ := hruns (by decide) hsize
  obtain ⟨pages', hpages'⟩ := hruns' (by decide) hsize
  have hin : now.compare (later.addDays (-14)) ≠ .lt := by decide +kernel
  have hout : now.compare ((later.addSeconds 1).addDays (-14)) = .lt := by decide +kernel
  refine ⟨after, hafter, hj,
    ⟨page, hskips, hpage, hskipped now {} ⟨now, 0⟩ all page hskips hpage⟩,
    ⟨pages, hpages, (hshown pages hpages).1.mpr hin⟩, pages', hpages', fun hmem => ?_⟩
  exact (hshown' pages' hpages').2.mp hmem hout

end Library

end ReadLater
