import ReadLater.Proofs.BulkRuns
import ReadLater.Proofs.SearchRuns
import ReadLater.Proofs.WrittenQueries

/-!
# Moved items are found in their folder

A bulk move writes the name of a folder to the items that it matches, and `in:"name" use:folders`
reads the name back from the text of a query. So all pages of that search together show the items
that live in the folder, and the moved ones among them.
-/

namespace ReadLater

namespace Text

lemma containsRun_append (part cs : List Char) : containsRun part (cs ++ part) = true := by
  induction cs with
  | nil =>
    cases part with
    | nil => rfl
    | cons c part => simp [containsRun]
  | cons c cs ih =>
    rw [List.cons_append, containsRun, ih, Bool.or_true]

end Text

/-- The name can stand in a tag as it is, and `in:` does not take it for a place of its own. -/
structure IsFolderName (folder : String) : Prop where
  nonempty : folder ≠ ""
  trimmed : Text.trim folder = folder
  unquoted : '"' ∉ folder.toList
  not_place : Text.lower folder ∉ ["all", "archive", "trash"]

instance (folder : String) : Decidable (IsFolderName folder) :=
  decidable_of_iff (folder ≠ "" ∧ Text.trim folder = folder ∧ '"' ∉ folder.toList ∧
    Text.lower folder ∉ ["all", "archive", "trash"])
    ⟨fun ⟨hnonempty, htrimmed, hunquoted, hplace⟩ => ⟨hnonempty, htrimmed, hunquoted, hplace⟩,
      fun ⟨hnonempty, htrimmed, hunquoted, hplace⟩ => ⟨hnonempty, htrimmed, hunquoted, hplace⟩⟩

namespace Query

/-- The query for the items of a folder. -/
def inFolder (folder : String) : String :=
  "in:\"" ++ folder ++ "\" use:folders"

/-- The two tags of the query for a folder. -/
def folderTag (folder : String) : Tag :=
  ⟨.named "in" false, .literal (.string folder) true⟩

def useFoldersTag : Tag :=
  ⟨.named "use" false, .literal (.string "folders") false⟩

lemma useFoldersTag_isWritable : useFoldersTag.IsWritable :=
  .unquoted (by decide) (by decide) (List.all_eq_true.mp (by decide)) (by decide)

lemma useFoldersTag_contribution (options : CompileOptions) (bound : Nat) :
    useFoldersTag.contribution options bound = .ok {} := by
  have huse : Keyword.ofName? "use" = some .use := by decide +kernel
  have hfolders : Text.trim "folders" = "folders" := by decide
  simp [Tag.contribution, useFoldersTag, Operand.text, huse, hfolders, Keyword.contribution]

variable {folder : String}

lemma parse_inFolder (h : IsFolderName folder) :
    parse (inFolder folder) =
      .ok (.logical .and (.tag (folderTag folder)) (.tag useFoldersTag)) := by
  have hnonempty : folder.toList ≠ [] := fun hnil => h.nonempty (String.toList_inj.mp hnil)
  have hfolder : (folderTag folder).IsWritable := .quoted (by decide) hnonempty h.unquoted
  have hcanonical : (logical .and (.tag (folderTag folder)) (.tag useFoldersTag)).IsCanonical :=
    ⟨hfolder, Nat.le_of_ble_eq_true rfl, useFoldersTag_isWritable, Nat.le_of_ble_eq_true rfl⟩
  obtain ⟨us, hderives, hspells⟩ :=
    (Writes.implicitAnd (.leaf (folderTag folder)) (.leaf useFoldersTag)).exists_derives hcanonical
  rw [← parse_of_spells hspells hderives]
  congr 1
  apply String.toList_inj.mp
  simp [inFolder, folderTag, useFoldersTag, Tag.written, Operand.written, Operand.isQuoted,
    Operand.text]

lemma wantsFolders_inFolder (folder : String) : wantsFolders (inFolder folder) = true := by
  have htext : (inFolder folder).toList =
      ("in:\"" ++ folder ++ "\" ").toList ++ "use:folders".toList := by simp [inFolder]
  rw [wantsFolders, htext]
  exact Text.containsRun_append _ _

end Query

/-- What the query for a folder is compiled to. -/
def Compiled.inFolder (folder : String) : Compiled where
  predicate := some (.and (.test (.isNull .archivedAt)) (.test (.equals .folder (numbered "in" 0))))
  parameters := ⟨[⟨numbered "in" 0, .text folder⟩]⟩
  ranks := []
  sort := []
  trash := false

lemma SearchSettings.compile_inFolder (s : SearchSettings) {folder : String}
    (h : IsFolderName folder) (useFolders : Bool) (now : Time.Moment) :
    s.compile (Query.inFolder folder) useFolders now = .ok (.inFolder folder) := by
  have hin : Keyword.ofName? "in" = some .inPlace := by decide +kernel
  have hplace := h.not_place
  simp only [List.mem_cons, List.not_mem_nil, or_false, not_or] at hplace
  obtain ⟨hall, harchive, htrash⟩ := hplace
  have hfolder (options : CompileOptions) (hscoped : options.foldersScoped = true) :
      (Query.folderTag folder).contribution options 0 = .ok {
        predicate := some
          (.and (.test (.isNull .archivedAt)) (.test (.equals .folder (numbered "in" 0))))
        parameters := [⟨numbered "in" 0, .text folder⟩] } := by
    simp [Query.Tag.contribution, Query.folderTag, Query.Operand.text, hin, h.trimmed, h.nonempty,
      Keyword.contribution, TagOperand.inPlace, TagOperand.lowered, hall, harchive, htrash, hscoped]
  unfold SearchSettings.compile Query.compileText
  rw [Query.parse_inFolder h]
  simp only [bind, Except.bind, Query.wantsFolders_inFolder, Bool.or_true]
  unfold Query.compile
  simp only [Query.compileInto]
  rw [show ({} : Accumulator).parameters.entries.length = 0 from rfl, hfolder _ rfl]
  simp only [Query.useFoldersTag_contribution]
  rfl

/-- The item of the user lives in the folder: it is neither still being fetched nor in the trash nor
archived. -/
structure Item.LivesIn (i : Item) (userId folder : String) : Prop where
  owner : i.userId = userId
  fetched : i.state ≠ .processing
  kept : i.state ≠ .deleted
  unarchived : i.archivedAt = none
  folder : i.folder = folder

instance (i : Item) (userId folder : String) : Decidable (i.LivesIn userId folder) :=
  decidable_of_iff (i.userId = userId ∧ i.state ≠ .processing ∧ i.state ≠ .deleted ∧
    i.archivedAt = none ∧ i.folder = folder)
    ⟨fun ⟨howner, hfetched, hkept, hunarchived, hfolder⟩ =>
      ⟨howner, hfetched, hkept, hunarchived, hfolder⟩,
      fun ⟨howner, hfetched, hkept, hunarchived, hfolder⟩ =>
      ⟨howner, hfetched, hkept, hunarchived, hfolder⟩⟩

namespace Compiled

variable {userId folder : String} {clock : Time.Instant} {i : Item}

lemma numbered_inFolder (folder : String) : (inFolder folder).parameters.Numbered :=
  ⟨⟨"in", rfl⟩, trivial⟩

/-- The query for a folder finds the items of the user that live in it. -/
theorem inFolder_accepts_iff : ((inFolder folder).visibleTo userId {}).accepts clock i = .ok true ↔
    i.LivesIn userId folder := by
  have hnumbered := numbered_inFolder folder
  have hadmits : (inFolder folder).admits userId {} i = true ↔
      i.userId = userId ∧ i.state ≠ .processing ∧ i.state ≠ .deleted := by
    simp [admits, Visibility.hidden, inFolder]
  have hfolder : ((inFolder folder).visibleTo userId {}).parameters.text (numbered "in" 0) =
      .ok folder := by
    have hmem : (⟨numbered "in" 0, .text folder⟩ : Parameter) ∈
        ((inFolder folder).visibleTo userId {}).parameters.entries :=
      (visibleTo_extends userId {}).subset List.mem_cons_self
    have hvalue := (visibleTo_numbered userId {} hnumbered).get?_of_mem hmem
    rw [Parameters.text, hvalue]
  have htest : Filter.accepts ⟨(inFolder folder).predicate,
      ((inFolder folder).visibleTo userId {}).parameters⟩ clock i = .ok true ↔
      i.archivedAt = none ∧ i.folder = folder := by
    generalize ((inFolder folder).visibleTo userId {}).parameters = ps at hfolder
    simp only [Filter.accepts, inFolder, Predicate.truth, Condition.truth, hfolder, bind,
      Except.bind, pure, Except.pure, Item.value, Value.text?, Option.map_some]
    rw [← beq_iff_eq (a := i.folder)]
    cases i.folder == folder <;> cases i.archivedAt <;>
      simp [Value.ofTime?, Value.isNull, Truth.and]
  rw [visibleTo_accepts_iff userId {} hnumbered, hadmits, htest]
  constructor
  · rintro ⟨⟨howner, hfetched, hkept⟩, hunarchived, hfolder⟩
    exact ⟨howner, hfetched, hkept, hunarchived, hfolder⟩
  · rintro ⟨howner, hfetched, hkept, hunarchived, hfolder⟩
    exact ⟨⟨howner, hfetched, hkept⟩, hunarchived, hfolder⟩

end Compiled

/-- The search starts with the first page of the items that live in a folder. -/
structure SearchRequest.ForFolder (r : SearchRequest) (userId folder : String) : Prop where
  userId : r.userId = userId
  query : r.query = Query.inFolder folder
  visibility : r.visibility = {}
  start : r.after = none

lemma SearchRequest.ForFolder.asks {r : SearchRequest} {userId folder : String}
    (h : r.ForFolder userId folder) (hname : IsFolderName folder) (s : SearchSettings)
    (now : Time.Moment) : r.Asks s now (.inFolder folder) where
  start := h.start
  compiled := by
    rw [h.query]
    exact s.compile_inFolder hname r.useFolders now
  unsorted := rfl

namespace Library

variable {l after : Library} {clock : Time.Instant} {s : SearchSettings} {now : Time.Moment}
  {r : SearchRequest} {b : BulkRequest} {userId folder : String} {result : BulkResult}

theorem perm_pages_inFolder (hname : IsFolderName folder) (h : r.ForFolder userId folder)
    {pages : List Page} (hpages : l.Pages clock s now r pages) :
    ((pages.flatMap (·.rows)).map (·.item)).Perm
      (l.items.filter fun i => i.LivesIn userId folder) := by
  have hperm := hpages.perm_passing (h.asks hname s now)
  rw [h.userId, h.visibility] at hperm
  have hpasses : ((Compiled.inFolder folder).visibleTo userId {}).passes clock =
      fun i => decide (i.LivesIn userId folder) := by
    funext i
    rw [Bool.eq_iff_iff, Filter.passes_iff, Compiled.inFolder_accepts_iff, decide_eq_true_iff]
  rwa [hpasses] at hperm

/-- After a successful move, all pages of the query for the folder together show just the items of
the user that live in it, and among them every item that the move matched and that is neither still
being fetched nor in the trash nor archived. -/
theorem move_found_in_folder (hname : IsFolderName folder) (haction : b.action = .move folder)
    (h : l.bulk clock s b now = .ok (after, result)) :
    ∃ f, b.filter s now = .ok f ∧ ∀ (clock' : Time.Instant) (s' : SearchSettings)
      (now' : Time.Moment) (r : SearchRequest), r.ForFolder b.userId folder →
      (0 < s'.maxPageSize → after.items.length < UInt64.size →
        ∃ pages, after.Pages clock' s' now' r pages) ∧
      ∀ pages, after.Pages clock' s' now' r pages →
        ((pages.flatMap (·.rows)).map (·.item)).Perm
          (after.items.filter fun i => i.LivesIn b.userId folder) ∧
        ∀ (k : Nat) (i : Item), l.items[k]? = some i → f.accepts clock i = .ok true →
          i.state ≠ .processing → i.state ≠ .deleted → i.archivedAt = none →
          ∃ j, after.items[k]? = some j ∧
            j = { i with folder := folder, updatedAt := some now.instant } ∧
            j ∈ (pages.flatMap (·.rows)).map (·.item) := by
  obtain ⟨f, hf⟩ := exists_filter_of_bulk h
  have hassigns : ∀ labelIds, b.action ≠ .addLabels labelIds := by simp [haction]
  rw [bulk_of_filter hassigns hf, haction] at h
  cases h
  refine ⟨f, hf, fun clock' s' now' r hr =>
    ⟨exists_pages_of_asks (hr.asks hname s' now'), fun pages hpages => ?_⟩⟩
  have hperm := perm_pages_inFolder hname hr hpages
  refine ⟨hperm, fun k i hk haccepts hfetched hkept hunarchived => ?_⟩
  have hi : i ∈ l.items := List.mem_of_getElem? hk
  have hreached : l.Reaches clock f i := ⟨i, hi, rfl, haccepts⟩
  have hwritten : (l.itemsAfter clock f (.move folder) now.instant)[k]? =
      some ((BulkAction.move folder).written now.instant i) := by
    rw [itemsAfter, List.getElem?_map, hk, Option.map_some, if_pos hreached]
  have hlives : ((BulkAction.move folder).written now.instant i).LivesIn b.userId folder :=
    ⟨(shownTo_of_bulk hf haccepts).owner, hfetched, hkept, hunarchived, rfl⟩
  refine ⟨_, hwritten, rfl, hperm.mem_iff.mpr ?_⟩
  exact List.mem_filter.mpr ⟨List.mem_of_getElem? hwritten, decide_eq_true hlives⟩

/-- A name with blanks, parentheses, a keyword and a tag in it. Of the moved items the archived one
is not shown; an item that was in the folder before is. -/
theorem move_found_in_folder_with_keyword :
    let now : Time.Instant := .ofSeconds 1710498600
    let folder := "to (read) OR in:trash"
    let i := Item.saved "a" "u1" "Notes" .epoch
    let archived := { Item.saved "b" "u1" "Notes" .epoch with archivedAt := some .epoch }
    let before := { Item.saved "c" "u1" "Essays" .epoch with folder }
    let other := { Item.saved "d" "u2" "Notes" .epoch with folder }
    let l : Library := { items := [i, archived, before, other] }
    let b : BulkRequest := ⟨"u1", "notes", .move folder, false⟩
    let r : SearchRequest :=
      { userId := "u1", query := "in:\"to (read) OR in:trash\" use:folders" }
    let j := { i with folder, updatedAt := some now }
    IsFolderName folder ∧
      ∃ after pages, l.bulk now {} b ⟨now, 0⟩ = .ok (after, ⟨2, 2⟩) ∧
        after.Pages now {} ⟨now, 0⟩ r pages ∧
        ((pages.flatMap (·.rows)).map (·.item.id)).Perm ["a", "c"] ∧
        j ∈ (pages.flatMap (·.rows)).map (·.item) := by
  intro now folder i archived before other l b r j
  have hname : IsFolderName folder := by decide +kernel
  have hbulk : (l.bulk now {} b ⟨now, 0⟩).toOption.map (fun answer => (answer.2,
      answer.1.items.length, (answer.1.items.filter fun i => i.LivesIn "u1" folder).map (·.id))) =
      some (⟨2, 2⟩, 4, ["a", "c"]) := by decide +kernel
  have hfilter : (b.filter {} ⟨now, 0⟩).toOption.map (fun f => f.accepts now i) =
      some (.ok true) := by decide +kernel
  obtain ⟨⟨after, result⟩, hafter, hanswer⟩ := Except.exists_of_toOption hbulk
  simp only [Prod.mk.injEq] at hanswer
  obtain ⟨rfl, hfour, hids⟩ := hanswer
  obtain ⟨f, hf, haccepts⟩ := Except.exists_of_toOption hfilter
  obtain ⟨_, hsame, hfound⟩ := move_found_in_folder hname rfl hafter
  cases hf.symm.trans hsame
  have hr : r.ForFolder "u1" folder := ⟨rfl, by decide, rfl, rfl⟩
  obtain ⟨hruns, hshown⟩ := hfound now {} ⟨now, 0⟩ r hr
  have hsize : after.items.length < UInt64.size := by
    rw [hfour]
    decide
  obtain ⟨pages, hpages⟩ := hruns (by decide) hsize
  obtain ⟨hperm, hmoved⟩ := hshown pages hpages
  obtain ⟨_, -, rfl, hj⟩ := hmoved 0 i rfl haccepts (by decide) (by decide) rfl
  have hshownIds := hperm.map (·.id)
  rw [hids, List.map_map] at hshownIds
  exact ⟨hname, after, pages, hafter, hpages, hshownIds, hj⟩

end Library

end ReadLater
