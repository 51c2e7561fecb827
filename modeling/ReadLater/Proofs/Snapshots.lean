import Mathlib.Data.List.ReduceOption
import ReadLater.Command.Run
import ReadLater.Proofs.JsonRecords
import ReadLater.Proofs.Timestamps

/-!
# Snapshots are read back

The text that is written for a library is read as the library, if the doubles are read back from
what is written for them, and but for leap seconds within a minute, which have the written form of
the second after them. Strings, lists, states, word counts and missing values are read back whatever
they are.
-/

namespace ReadLater

open Json (Record)
open Json.Reader

lemma inverts_string (s : String) : Inverts Json.Reader.string (.string s) s :=
  inverts_text "a string" s

lemma inverts_strings (ss : List String) :
    Inverts (Json.Reader.list Json.Reader.string) (Json.strings ss) ss := by
  refine inverts_list ?_
  rw [List.forall₂_map_left_iff, List.forall₂_same]
  exact fun s _ => inverts_string s

lemma inverts_stringOrNull (o : Option String) :
    Inverts (optional Json.Reader.string) (Json.orNull .string o) o :=
  inverts_orNull fun s _ => ⟨inverts_string s, fun _ h => by cases h⟩

lemma inverts_int64OrNull (o : Option Int64) :
    Inverts (optional int64) (Json.orNull (fun n => Json.int n.toInt) o) o := by
  refine inverts_orNull fun n _ => ⟨inverts_int64 n, fun level h => ?_⟩
  obtain ⟨c, cs, hcons, hc⟩ := exists_written_cons (Json.Numeral.isWritable_ofInt n.toInt)
  rw [Json.Numeral.written_ofInt] at hcons
  change (Text.decimalInt n.toInt).head? = some 'n' at h
  rw [hcons, List.head?_cons, Option.some.injEq] at h
  rw [h] at hc
  cases hc

lemma inverts_state (s : ItemState) : Inverts ItemState.reader (.string s.name) s :=
  inverts_oneOf (by cases s <;> decide)

lemma timeJson_asWritten (t : Time.Instant) : timeJson t.asWritten = timeJson t := by
  rw [timeJson, Time.writeInstant_asWritten, timeJson]

lemma inverts_time {t : Time.Instant} (h : t.inRange = true) :
    Inverts timeReader (timeJson t) t.asWritten := by
  refine ⟨fun level blanks rest hblanks hrest => ?_⟩
  refine ((inverts_text _ (Time.writeInstant t)).takes level hblanks hrest).bind ?_
  simp only [Time.readRelaxedTimestamp_asWritten h]
  exact takes_pure t.asWritten rest

lemma orNull_asWritten (o : Option Time.Instant) :
    Json.orNull timeJson (o.map (·.asWritten)) = Json.orNull timeJson o := by
  cases o with
  | none => rfl
  | some t => exact timeJson_asWritten t

lemma inverts_timeOrNull {o : Option Time.Instant} (h : ∀ t ∈ o, t.inRange = true) :
    Inverts (optional timeReader) (Json.orNull timeJson o) (o.map (·.asWritten)) := by
  rw [← orNull_asWritten]
  refine inverts_orNull fun u hu => ?_
  obtain ⟨t, ht, rfl⟩ := Option.mem_map.mp hu
  rw [timeJson_asWritten]
  exact ⟨inverts_time (h t ht), fun _ h => by cases h⟩

namespace Item

/-- The times of an item that are set. -/
def times (i : Item) : List Time.Instant :=
  i.savedAt :: [i.updatedAt, i.publishedAt, i.readAt, i.archivedAt, i.deletedAt].reduceOption

def progress (i : Item) : List Float :=
  [i.readingProgressTop, i.readingProgressBottom]

/-- The times of the item lie in the calendar, and its doubles are read back. -/
structure IsStorable (i : Item) : Prop where
  times : ∀ t ∈ i.times, t.inRange = true
  progress : ∀ x ∈ i.progress, KeepsFloat x

instance (i : Item) : Decidable i.IsStorable :=
  decidable_of_iff ((∀ t ∈ i.times, t.inRange = true) ∧
      ∀ x ∈ i.progress, Json.Reader.float.whole (Json.float x).compact = .ok x)
    ⟨fun h => ⟨h.1, h.2⟩, fun h => ⟨h.times, h.progress⟩⟩

/-- The item with the times that their written forms stand for. -/
def asWritten (i : Item) : Item :=
  { i with
    savedAt := i.savedAt.asWritten
    updatedAt := i.updatedAt.map (·.asWritten)
    publishedAt := i.publishedAt.map (·.asWritten)
    readAt := i.readAt.map (·.asWritten)
    archivedAt := i.archivedAt.map (·.asWritten)
    deletedAt := i.deletedAt.map (·.asWritten) }

variable {i : Item}

lemma forall_mem_times {p : Time.Instant → Prop} : (∀ t ∈ i.times, p t) ↔ p i.savedAt ∧
    ∀ o ∈ [i.updatedAt, i.publishedAt, i.readAt, i.archivedAt, i.deletedAt], ∀ t ∈ o, p t := by
  rw [times, List.forall_mem_cons]
  refine and_congr_right fun _ => ?_
  constructor
  · rintro h (_ | t) ho u hu
    · cases hu
    · cases hu
      exact h t (List.reduceOption_mem_iff.mpr ho)
  · exact fun h t ht => h (some t) (List.reduceOption_mem_iff.mp ht) t rfl

lemma asWritten_eq_self_iff (hrange : ∀ t ∈ i.times, t.inRange = true) :
    i.asWritten = i ↔ ∀ t ∈ i.times, t.OnClocks := by
  have hoption (o : Option Time.Instant) :
      o.map (·.asWritten) = o ↔ ∀ t ∈ o, t.asWritten = t := by
    cases o <;> simp
  have hself : i.asWritten = i ↔ ∀ t ∈ i.times, t.asWritten = t := by
    rw [forall_mem_times]
    cases i
    simp [asWritten, hoption]
  rw [hself]
  exact forall₂_congr fun t ht => Time.Instant.asWritten_eq_self_iff (hrange t ht)

lemma fills (h : i.IsStorable) :
    Record.Fills record.members i.members record.blank i.asWritten := by
  have htime {o : Option Time.Instant}
      (ho : o ∈ [i.updatedAt, i.publishedAt, i.readAt, i.archivedAt, i.deletedAt]) :
      Inverts (optional timeReader) (Json.orNull timeJson o) (o.map (·.asWritten)) := by
    refine inverts_timeOrNull fun t ht => h.times t (List.mem_cons_of_mem _ ?_)
    exact List.reduceOption_mem_iff.mpr (Option.mem_def.mp ht ▸ ho)
  refine .cons ((inverts_string i.id).map _) ?_
  refine .cons ((inverts_string i.userId).map _) ?_
  refine .cons ((inverts_state i.state).map _) ?_
  refine .cons ((inverts_string i.folder).map _) ?_
  refine .cons ((inverts_string i.itemType).map _) ?_
  refine .cons ((inverts_string i.title).map _) ?_
  refine .cons ((inverts_stringOrNull i.author).map _) ?_
  refine .cons ((inverts_stringOrNull i.description).map _) ?_
  refine .cons ((inverts_stringOrNull i.note).map _) ?_
  refine .cons ((inverts_stringOrNull i.siteName).map _) ?_
  refine .cons ((inverts_string i.content).map _) ?_
  refine .cons ((inverts_stringOrNull i.subscription).map _) ?_
  refine .cons ((inverts_stringOrNull i.itemLanguage).map _) ?_
  refine .cons ((inverts_strings i.labelNames).map _) ?_
  refine .cons ((inverts_strings i.highlightLabels).map _) ?_
  refine .cons ((inverts_strings i.highlightAnnotations).map _) ?_
  refine .cons ((inverts_strings i.recommenderNames).map _) ?_
  refine .cons ((inverts_int64OrNull i.wordCount).map _) ?_
  refine .cons ((inverts_float (h.progress _ List.mem_cons_self)).map _) ?_
  refine .cons ((inverts_float (h.progress _ (by simp [progress]))).map _) ?_
  refine .cons ((inverts_time (h.times _ List.mem_cons_self)).map _) ?_
  refine .cons ((htime (o := i.updatedAt) (by simp)).map _) ?_
  refine .cons ((htime (o := i.publishedAt) (by simp)).map _) ?_
  refine .cons ((htime (o := i.readAt) (by simp)).map _) ?_
  refine .cons ((htime (o := i.archivedAt) (by simp)).map _) ?_
  refine .cons ((htime (o := i.deletedAt) (by simp)).map _) ?_
  exact .nil

lemma toJson_asWritten (i : Item) : i.asWritten.toJson = i.toJson := by
  simp only [toJson, members, asWritten, timeJson_asWritten, orNull_asWritten]

lemma inverts_toJson (h : i.IsStorable) : Inverts record.reader i.toJson i.asWritten :=
  Record.inverts (by decide) (fills h)

end Item

lemma Label.inverts_toJson (l : Label) : Inverts record.reader l.toJson l := by
  refine Record.inverts (by decide) ?_
  refine .cons ((inverts_string l.id).map _) ?_
  refine .cons ((inverts_string l.userId).map _) ?_
  refine .cons ((inverts_string l.name).map _) ?_
  exact .nil

lemma LabelLink.inverts_toJson (l : LabelLink) : Inverts record.reader l.toJson l := by
  refine Record.inverts (by decide) ?_
  refine .cons ((inverts_string l.labelId).map _) ?_
  refine .cons ((inverts_string l.itemId).map _) ?_
  exact .nil

namespace Library

variable {l : Library}

lemma inverts_records {α : Type} {reader : Json.Reader α} {toJson : α → Json} {f : α → α}
    {as : List α} (h : ∀ a ∈ as, Inverts reader (toJson a) (f a)) :
    Inverts (Json.Reader.list reader) (.array (as.map toJson)) (as.map f) := by
  refine inverts_list ?_
  rw [List.forall₂_map_left_iff, List.forall₂_map_right_iff, List.forall₂_same]
  exact h

/-- The library with the times that their written forms stand for. -/
def asWritten (l : Library) : Library :=
  { l with items := l.items.map (·.asWritten) }

lemma asWritten_eq_self_iff (hrange : ∀ i ∈ l.items, ∀ t ∈ i.times, t.inRange = true) :
    l.asWritten = l ↔ ∀ i ∈ l.items, ∀ t ∈ i.times, t.OnClocks := by
  have hself : l.asWritten = l ↔ ∀ i ∈ l.items, i.asWritten = i := by
    have hitems : l.items.map (·.asWritten) = l.items ↔ ∀ i ∈ l.items, i.asWritten = i := by
      simpa using List.map_inj_left (l := l.items) (f := (·.asWritten)) (g := id)
    rw [← hitems]
    cases l
    simp [asWritten]
  rw [hself]
  exact forall₂_congr fun i hi => Item.asWritten_eq_self_iff (hrange i hi)

lemma inverts_toJson (h : ∀ i ∈ l.items, i.IsStorable) :
    Inverts record.reader l.toJson l.asWritten := by
  refine Record.inverts (by decide) ?_
  refine .cons ((inverts_records fun i hi => Item.inverts_toJson (h i hi)).map _) ?_
  refine .cons ((inverts_records (f := id) fun label _ => label.inverts_toJson).map _) ?_
  refine .cons ((inverts_records (f := id) fun link _ => link.inverts_toJson).map _) ?_
  simp only [List.map_id]
  exact .nil

lemma snapshot_asWritten (l : Library) : l.asWritten.snapshot = l.snapshot := by
  have hitems : (l.items.map (·.asWritten)).map Item.toJson = l.items.map Item.toJson := by
    rw [List.map_map]
    exact List.map_congr_left fun i _ => i.toJson_asWritten
  rw [snapshot, toJson, asWritten, hitems]
  rfl

lemma ofSnapshot_asWritten (h : ∀ i ∈ l.items, i.IsStorable) :
    ofSnapshot l.snapshot = .ok l.asWritten := by
  have htext := (inverts_toJson h).takes 0 blanks_nil Json.endsNumber_nil
  rw [List.nil_append, List.append_nil] at htext
  refine Takes.whole ?_ blanks_nil
  rw [snapshot, Json.indented, String.toList_ofList]
  exact htext

/-- A library is read back from its snapshot with the times that their written forms stand for. If
clocks show the times it is the library itself, so that searches, counts and bulk actions over the
opened library answer as before. -/
theorem ofSnapshot_snapshot (h : ∀ i ∈ l.items, i.IsStorable) :
    ofSnapshot l.snapshot = .ok l.asWritten ∧
      (l.asWritten = l ↔ ∀ i ∈ l.items, ∀ t ∈ i.times, t.OnClocks) ∧
      ∀ path, ∃ after, Command.openLibrary path (.ok l.snapshot) = .ok after ∧
        ((∀ i ∈ l.items, ∀ t ∈ i.times, t.OnClocks) →
          (∀ now settings r moment,
            after.search now settings r moment = l.search now settings r moment) ∧
          (∀ now f, after.count now f = l.count now f) ∧
          ∀ now settings r moment,
            after.bulk now settings r moment = l.bulk now settings r moment) := by
  have hread := ofSnapshot_asWritten h
  have hself := asWritten_eq_self_iff fun i hi => (h i hi).times
  have hopen (path : String) : Command.openLibrary path (.ok l.snapshot) = .ok l.asWritten := by
    rw [Command.openLibrary]
    simp only [hread]
  refine ⟨hread, hself, fun path => ⟨l.asWritten, hopen path, fun hclocks => ?_⟩⟩
  rw [hself.mpr hclocks]
  exact ⟨fun _ _ _ _ => rfl, fun _ _ => rfl, fun _ _ _ _ => rfl⟩

/-- Escapes in strings, the smallest word count, the ends of the calendar, a leap second with a
fraction, doubles with a fraction, and an item that sets no more than it must. -/
theorem ofSnapshot_snapshot_extremes :
    let full : Item := {
      id := "\"\\", userId := "u1", state := .contentNotFetched, folder := "a\tb", itemType := "",
      title := "Ä\n\x01\u2028", author := some "", description := some "null", note := some "[1]",
      siteName := some "\x7f", content := "\r\x00", subscription := some ",",
      itemLanguage := some "en", labelNames := ["x", "x"], highlightLabels := [""],
      highlightAnnotations := ["\"", "'"], recommenderNames := ["r"],
      wordCount := some Int64.minValue, readingProgressTop := 12.5, readingProgressBottom := -0.0,
      savedAt := .ofSeconds 8210266876799,
      updatedAt := some ⟨-8334601228800, 1, by decide⟩,
      publishedAt := some ⟨1483228799, 1500000000, by decide⟩,
      readAt := some ⟨253402300800, 120000000, by decide⟩, archivedAt := some .epoch,
      deletedAt := some ⟨-1, 999999000, by decide⟩ }
    let l : Library := ⟨[full, Item.saved "b" "" "" .epoch], [⟨"1", "u1", "x"⟩], [⟨"1", "\"\\"⟩]⟩
    (∀ i ∈ l.items, i.IsStorable) ∧ (∀ i ∈ l.items, ∀ t ∈ i.times, t.OnClocks) ∧
      ofSnapshot l.snapshot = .ok l ∧
      ∃ after, Command.openLibrary "library.json" (.ok l.snapshot) = .ok after ∧
        ∀ now f, after.count now f = l.count now f := by
  intro full l
  have hstorable : ∀ i ∈ l.items, i.IsStorable := by decide +kernel
  have hclocks : ∀ i ∈ l.items, ∀ t ∈ i.times, t.OnClocks := by decide +kernel
  obtain ⟨hread, hself, hopen⟩ := ofSnapshot_snapshot hstorable
  obtain ⟨after, hafter, hsame⟩ := hopen "library.json"
  rw [hself.mpr hclocks] at hread
  exact ⟨hstorable, hclocks, hread, after, hafter, (hsame hclocks).2.1⟩

/-- A leap second within a minute is read as an instant of the next second, so that a search up to
the start of that second finds the item no more. -/
theorem leap_second_moves_within_minute :
    let l : Library := ⟨[Item.saved "a" "u1" "Notes" ⟨5, 1500000000, by decide⟩], [], []⟩
    let moved : Library := ⟨[Item.saved "a" "u1" "Notes" ⟨6, 500000000, by decide⟩], [], []⟩
    let r : SearchRequest := { userId := "u1", query := "saved:*..1970-01-01T00:00:06Z" }
    let now : Time.Moment := ⟨.epoch, 0⟩
    l ≠ moved ∧ l.snapshot = moved.snapshot ∧ ofSnapshot l.snapshot = .ok moved ∧
      l.countMatches .epoch {} r now = .ok 1 ∧ moved.countMatches .epoch {} r now = .ok 0 := by
  intro l moved r now
  have hmoved : l.asWritten = moved := by decide +kernel
  have hread := ofSnapshot_asWritten (l := l) (by decide +kernel)
  have htext := l.snapshot_asWritten
  rw [hmoved] at hread htext
  refine ⟨by decide +kernel, htext.symm, hread, ?_, ?_⟩
  · decide +kernel
  · decide +kernel

end Library

end ReadLater
