import Mathlib.Algebra.GroupWithZero.Nat
import Mathlib.Data.List.Induction
import ReadLater.Proofs.Sessions

/-!
# Interleaved bulk requests

Requests share a library, and their calls come in any order. Several of them may miss the same link
before one inserts it. A link that is there by the time of the insertion is neither added nor
counted again, so that nothing is lost, nothing is added twice, and the counts of the requests sum
up to the number of links added.
-/

namespace ReadLater

/-- Every label that is asked for has been found. -/
def FindsAll (labels : List Label) (labelIds : List String) : Prop :=
  ∀ labelId ∈ labelIds, ∃ label ∈ labels, label.id = labelId

namespace BulkCall

variable {c : BulkCall} {l m : Library} {stage stage' : BulkStage} {passed : Library → Prop}

/-- The query matched these ids in a library that the run has passed. -/
def Selects (c : BulkCall) (passed : Library → Prop) (itemIds : List String) : Prop :=
  ∃ f m, c.filter = .ok f ∧ passed m ∧ m.matchingIds c.clock f = .ok itemIds

/-- What holds at each stage. The pairs that are not to be inserted are linked, and stay so. -/
inductive IsAt (c : BulkCall) (passed : Library → Prop) (l : Library) : BulkStage → Prop
  | begun : IsAt c passed l .begun
  | labelsFound {f labels labelIds} : c.request.action = .addLabels labelIds →
      c.filter = .ok f → FindsAll labels labelIds → IsAt c passed l (.labelsFound f labels)
  | itemsFound {labels itemIds labelIds} : c.request.action = .addLabels labelIds →
      FindsAll labels labelIds → c.Selects passed itemIds →
      IsAt c passed l (.itemsFound labels itemIds)
  | linksFound {itemIds missing labelIds} : c.request.action = .addLabels labelIds →
      c.Selects passed itemIds →
      (∀ itemId ∈ itemIds, ∀ labelId ∈ labelIds,
        ⟨labelId, itemId⟩ ∈ missing ∨ ⟨labelId, itemId⟩ ∈ l.links) →
      IsAt c passed l (.linksFound itemIds missing)
  | failed {e} : IsAt c passed l (.answered [] (.error e))
  | updated {result} : (∀ labelIds, c.request.action ≠ .addLabels labelIds) →
      IsAt c passed l (.answered [] (.ok result))
  | labelled {itemIds result labelIds} : c.request.action = .addLabels labelIds →
      c.Selects passed itemIds → result.matched = itemIds.length →
      (∀ itemId ∈ itemIds, ∀ labelId ∈ labelIds, ⟨labelId, itemId⟩ ∈ l.links) →
      IsAt c passed l (.answered itemIds (.ok result))

lemma Selects.mono {passed' : Library → Prop} (hpassed : ∀ m, passed m → passed' m)
    {itemIds : List String} (h : c.Selects passed itemIds) : c.Selects passed' itemIds := by
  obtain ⟨f, m, hf, hm, hids⟩ := h
  exact ⟨f, m, hf, hpassed m hm, hids⟩

/-- Calls of others do not touch what a request has read. -/
lemma IsAt.mono {passed' : Library → Prop} (hpassed : ∀ m, passed m → passed' m)
    (hgrows : l.GrowsTo m) (h : c.IsAt passed l stage) : c.IsAt passed' m stage := by
  have hlinks : ∀ link ∈ l.links, link ∈ m.links := fun _ => (hgrows.prefix_links.subset ·)
  cases h with
  | begun => exact .begun
  | labelsFound hadd hf hfound => exact .labelsFound hadd hf hfound
  | itemsFound hadd hfound hids => exact .itemsFound hadd hfound (hids.mono hpassed)
  | linksFound hadd hids hpairs =>
    refine .linksFound hadd (hids.mono hpassed) fun itemId hitem labelId hlabel => ?_
    exact (hpairs itemId hitem labelId hlabel).imp_right (hlinks _)
  | failed => exact .failed
  | updated haction => exact .updated haction
  | labelled hadd hids hmatched hpairs =>
    exact .labelled hadd (hids.mono hpassed) hmatched fun itemId hitem labelId hlabel =>
      hlinks _ (hpairs itemId hitem labelId hlabel)

lemma findsAll_findLabels {userId : String} {labelIds : List String}
    (h : l.HasLabels userId labelIds) : FindsAll (l.findLabels userId labelIds) labelIds := by
  intro labelId hlabelId
  obtain ⟨label, hlabel, howner, rfl⟩ := h labelId hlabelId
  exact ⟨label, Library.mem_findLabels.mpr ⟨hlabel, howner, hlabelId⟩, rfl⟩

lemma missing_or_linked {labels : List Label} {labelIds itemIds : List String}
    (h : FindsAll labels labelIds) {itemId labelId : String} (hitem : itemId ∈ itemIds)
    (hlabelId : labelId ∈ labelIds) :
    ⟨labelId, itemId⟩ ∈ l.missingLinks itemIds labels ∨ ⟨labelId, itemId⟩ ∈ l.links := by
  by_cases hlinked : ⟨labelId, itemId⟩ ∈ l.links
  · exact .inr hlinked
  · obtain ⟨label, hlabel, rfl⟩ := h labelId hlabelId
    exact .inl (Library.mem_missingLinks.mpr ⟨hitem, ⟨label, hlabel, rfl⟩, hlinked⟩)

theorem IsAt.advance (h : c.IsAt passed l stage) (hpassed : passed l)
    (hadvance : c.Advances l stage m stage') : c.IsAt passed m stage' := by
  cases hadvance with
  | failed => exact .failed
  | updated haction => exact .updated haction
  | labels hadd hf hhas => exact .labelsFound hadd hf (findsAll_findLabels hhas)
  | noItems hids =>
    cases h with
    | labelsFound hadd hf hfound =>
      exact .labelled hadd ⟨_, l, hf, hpassed, hids⟩ rfl (by simp)
  | items hids =>
    cases h with
    | labelsFound hadd hf hfound => exact .itemsFound hadd hfound ⟨_, l, hf, hpassed, hids⟩
  | noLinks hnone =>
    cases h with
    | itemsFound hadd hfound hids =>
      refine .labelled hadd hids rfl fun itemId hitem labelId hlabelId => ?_
      have hpair := missing_or_linked (l := l) hfound hitem hlabelId
      rw [hnone] at hpair
      exact hpair.resolve_left List.not_mem_nil
  | links =>
    cases h with
    | itemsFound hadd hfound hids =>
      exact .linksFound hadd hids fun itemId hitem labelId hlabelId =>
        missing_or_linked hfound hitem hlabelId
  | inserted =>
    cases h with
    | linksFound hadd hids hpairs =>
      refine .labelled hadd hids rfl fun itemId hitem labelId hlabelId => ?_
      exact Library.mem_links_insertLinks.mpr (hpairs itemId hitem labelId hlabelId)

end BulkCall

/-! ## The service -/

namespace BulkStage

/-- The ids and the numbers of a successful answer. -/
def result? : BulkStage → Option (List String × BulkResult)
  | .answered itemIds (.ok result) => some (itemIds, result)
  | _ => none

def affected (stage : BulkStage) : Nat :=
  (stage.result?.map fun (_, result) => result.affected).getD 0

lemma affected_eq_zero {stage : BulkStage} (h : stage.isAnswered = false) :
    stage.affected = 0 := by
  cases stage with
  | answered => cases h
  | begun | labelsFound | itemsFound | linksFound => rfl

lemma result?_eq_some {stage : BulkStage} {itemIds : List String} {result : BulkResult}
    (h : stage.result? = some (itemIds, result)) : stage = .answered itemIds (.ok result) := by
  unfold result? at h
  split at h
  · cases h
    rfl
  · cases h

end BulkStage

/-- A request with how far it has come. -/
structure Session where
  call : BulkCall
  stage : BulkStage := .begun

namespace Session

/-- The number of links that a request says it has added. -/
def added (s : Session) : Nat :=
  match s.call.request.action with
  | .addLabels _ => s.stage.affected
  | _ => 0

lemma added_eq_zero {s : Session} (h : s.stage.affected = 0) : s.added = 0 := by
  unfold added
  split
  · exact h
  · rfl

/-- By as many links as it says, a request makes the library grow. -/
theorem length_links {c : BulkCall} {passed : Library → Prop} {l m : Library}
    {stage stage' : BulkStage} (h : c.IsAt passed l stage)
    (hadvance : c.Advances l stage m stage') :
    m.links.length = l.links.length + (⟨c, stage'⟩ : Session).added := by
  cases hadvance with
  | updated haction hf hupdate =>
    have hzero : ∀ stage, (⟨c, stage⟩ : Session).added = 0 := by
      intro stage
      unfold added
      split
      · rename_i hadd
        exact absurd hadd (haction _)
      · rfl
    obtain ⟨items, -, -, rfl⟩ := Library.update_eq_ok_iff.mp hupdate
    rw [hzero, Nat.add_zero]
  | inserted =>
    cases h with
    | linksFound hadd hids hpairs =>
      simp only [added, hadd]
      exact Library.length_links_insertLinks _ _
  | failed | labels | noItems | items | noLinks | links =>
    rw [added_eq_zero rfl, Nat.add_zero]

end Session

/-- A library and the requests to it. -/
structure Service where
  library : Library
  sessions : List Session

namespace Service

/-- The next call of the request with a number. None is left of one that is answered. -/
def call (x : Service) (k : Nat) : Service :=
  match x.sessions[k]? with
  | some s =>
    let (library, stage) := s.call.advance x.library s.stage
    ⟨library, x.sessions.set k { s with stage }⟩
  | none => x

/-- Calls in the order that the numbers of their requests give. -/
def run (x : Service) (schedule : List Nat) : Service :=
  schedule.foldl call x

def begin (l : Library) (calls : List BulkCall) : Service :=
  ⟨l, calls.map fun c => ⟨c, .begun⟩⟩

/-- The number of links that the requests say they have added. -/
def added (x : Service) : Nat :=
  (x.sessions.map Session.added).sum

/-- The most calls that may be left. -/
def remaining (x : Service) : Nat :=
  (x.sessions.map fun s => s.stage.remaining).sum

variable {x : Service} {l : Library} {calls : List BulkCall} {passed : Library → Prop}

lemma run_append (x : Service) (first second : List Nat) :
    x.run (first ++ second) = (x.run first).run second :=
  List.foldl_append

/-- A call concerns one request that is not answered yet. -/
theorem call_of_open {k : Nat} {s : Session} (hs : x.sessions[k]? = some s)
    (hopen : s.stage.isAnswered = false) :
    ∃ before after library stage, x.sessions = before ++ s :: after ∧
      s.call.Advances x.library s.stage library stage ∧
      x.call k = ⟨library, before ++ { s with stage } :: after⟩ := by
  obtain ⟨hk, hget⟩ := List.getElem?_eq_some_iff.mp hs
  refine ⟨x.sessions.take k, x.sessions.drop (k + 1), _, _, ?_,
    s.call.advances_advance x.library hopen, ?_⟩
  · rw [← hget, List.getElem_cons_drop, List.take_append_drop]
  · unfold call
    simp only [hs, List.set_eq_take_append_cons_drop, if_pos hk]

lemma call_eq_self {k : Nat} (h : ∀ s, x.sessions[k]? = some s → s.stage.isAnswered = true) :
    x.call k = x := by
  unfold call
  cases hs : x.sessions[k]? with
  | none => rfl
  | some s =>
    obtain ⟨hk, hget⟩ := List.getElem?_eq_some_iff.mp hs
    dsimp only
    rw [BulkCall.advance_of_isAnswered s.call x.library (h s hs)]
    dsimp only
    rw [← hget, List.set_getElem_self]

lemma call_cases (x : Service) (k : Nat) :
    x.call k = x ∨ ∃ before s after library stage, x.sessions = before ++ s :: after ∧
      s.stage.isAnswered = false ∧ s.call.Advances x.library s.stage library stage ∧
      x.call k = ⟨library, before ++ { s with stage } :: after⟩ := by
  by_cases hanswered : ∀ s, x.sessions[k]? = some s → s.stage.isAnswered = true
  · exact .inl (call_eq_self hanswered)
  push Not at hanswered
  obtain ⟨s, hget, hopen⟩ := hanswered
  rw [ne_eq, Bool.not_eq_true] at hopen
  obtain ⟨before, after, library, stage, hx, hadvance, hcall⟩ := call_of_open hget hopen
  exact .inr ⟨before, s, after, library, stage, hx, hopen, hadvance, hcall⟩

/-! ## Every reachable state -/

lemma growsTo_call (x : Service) (k : Nat) : x.library.GrowsTo (x.call k).library := by
  rcases x.call_cases k with hsame | ⟨before, s, after, library, stage, -, -, hadvance, hcall⟩
  · rw [hsame]
    exact .refl _
  · rw [hcall]
    exact hadvance.growsTo

theorem growsTo_run (x : Service) (schedule : List Nat) :
    x.library.GrowsTo (x.run schedule).library := by
  induction schedule generalizing x with
  | nil => exact .refl _
  | cons k schedule ih => exact (x.growsTo_call k).trans (ih (x.call k))

/-- What calls keep: there are as many new links as the requests say. -/
structure Reached (l : Library) (calls : List BulkCall) (passed : Library → Prop) (x : Service) :
    Prop where
  calls : x.sessions.map (·.call) = calls
  count : x.library.links.length = l.links.length + x.added
  sessions : ∀ s ∈ x.sessions, s.call.IsAt passed x.library s.stage

lemma reached_begin (l : Library) (calls : List BulkCall) (passed : Library → Prop) :
    Reached l calls passed (begin l calls) where
  calls := by simp [begin, Function.comp_def]
  count := by
    have hzero : ∀ c, (⟨c, .begun⟩ : Session).added = 0 := fun c => Session.added_eq_zero rfl
    simp [begin, added, Function.comp_def, hzero]
  sessions := by
    intro s hs
    obtain ⟨c, -, rfl⟩ := List.mem_map.mp hs
    exact .begun

lemma Reached.mono {passed' : Library → Prop} (hpassed : ∀ m, passed m → passed' m)
    (h : Reached l calls passed x) : Reached l calls passed' x where
  calls := h.calls
  count := h.count
  sessions s hs := (h.sessions s hs).mono hpassed (.refl _)

theorem Reached.call (h : Reached l calls passed x) (hpassed : passed x.library) (k : Nat) :
    Reached l calls passed (x.call k) := by
  rcases x.call_cases k with hsame | ⟨before, s, after, library, stage, hx, hopen, hadvance, hcall⟩
  · rwa [hsame]
  have hgrows := hadvance.growsTo
  have hs : s.call.IsAt passed x.library s.stage := h.sessions s (by simp [hx])
  have hothers : ∀ t ∈ before ++ after, t.call.IsAt passed library t.stage := by
    intro t ht
    have hmem : t ∈ x.sessions := by
      rw [hx]
      exact (List.Sublist.append_left (List.sublist_cons_self s after) before).subset ht
    exact (h.sessions t hmem).mono (fun _ hm => hm) hgrows
  rw [hcall]
  refine ⟨?_, ?_, ?_⟩
  · rw [← h.calls, hx]
    simp
  · have hzero : s.added = 0 := Session.added_eq_zero (BulkStage.affected_eq_zero hopen)
    have hcount := h.count
    have hlinks := Session.length_links hs hadvance
    simp only [added, hx, List.map_append, List.map_cons, List.sum_append, List.sum_cons]
      at hcount ⊢
    omega
  · intro t ht
    rcases List.mem_append.mp ht with hbefore | ht
    · exact hothers t (List.mem_append_left _ hbefore)
    · rcases List.mem_cons.mp ht with rfl | hafter
      · exact hs.advance hpassed hadvance
      · exact hothers t (List.mem_append_right _ hafter)

/-- The libraries that a run has passed. -/
def Passed (l : Library) (calls : List BulkCall) (schedule : List Nat) (m : Library) : Prop :=
  ∃ earlier, earlier <+: schedule ∧ ((begin l calls).run earlier).library = m

theorem reached_run (l : Library) (calls : List BulkCall) (schedule : List Nat) :
    Reached l calls (Passed l calls schedule) ((begin l calls).run schedule) := by
  induction schedule using List.reverseRecOn with
  | nil => exact reached_begin l calls _
  | append_singleton schedule k ih =>
    rw [run_append]
    refine Reached.call (ih.mono ?_) ⟨schedule, List.prefix_append _ _, rfl⟩ k
    rintro m ⟨earlier, hearlier, rfl⟩
    exact ⟨earlier, hearlier.trans (List.prefix_append _ _), rfl⟩

/-- Every run can go on until all requests are answered. -/
theorem exists_answered (x : Service) :
    ∃ more, ∀ s ∈ (x.run more).sessions, s.stage.isAnswered = true := by
  -- a call of a request that is not answered brings it nearer to its answer
  induction hn : x.remaining using Nat.strongRecOn generalizing x with
  | ind n ih =>
    by_cases hall : ∀ s ∈ x.sessions, s.stage.isAnswered = true
    · exact ⟨[], hall⟩
    push Not at hall
    obtain ⟨s, hs, hopen⟩ := hall
    rw [ne_eq, Bool.not_eq_true] at hopen
    obtain ⟨k, hget⟩ := List.mem_iff_getElem?.mp hs
    obtain ⟨before, after, library, stage, hx, hadvance, hcall⟩ := call_of_open hget hopen
    have hnearer := hadvance.remaining_lt
    have hless : (x.call k).remaining < n := by
      rw [← hn, hcall]
      simp only [remaining, hx, List.map_append, List.map_cons, List.sum_append, List.sum_cons]
      omega
    obtain ⟨more, hmore⟩ := ih _ hless (x.call k) rfl
    exact ⟨k :: more, hmore⟩

/-- A request that has the library to itself comes to what it is in one step. -/
theorem run_alone (c : BulkCall) (l : Library) (stage : BulkStage) (schedule : List Nat) :
    ∃ m stage', (⟨l, [⟨c, stage⟩]⟩ : Service).run schedule = ⟨m, [⟨c, stage'⟩]⟩ ∧
      c.outcome m stage' = c.outcome l stage := by
  induction schedule generalizing l stage with
  | nil => exact ⟨l, stage, rfl, rfl⟩
  | cons k schedule ih =>
    cases k with
    | zero =>
      obtain ⟨m, stage', hrun, hsame⟩ := ih (c.advance l stage).1 (c.advance l stage).2
      exact ⟨m, stage', hrun, hsame.trans (c.outcome_advance l stage)⟩
    | succ k => exact ih l stage

/-- Any number of requests, with their calls in any order. No link is there twice and none goes; the
new links are as many as the requests say. What a request for labels selected was so in a library
that the run passed, and once it has succeeded, all of these items are linked to all of its labels.
Every run can go on until all requests are answered. -/
theorem interleaved_labels (hlinks : l.links.Nodup) (calls : List BulkCall) (schedule : List Nat) :
    let x := (begin l calls).run schedule
    x.library.links.Nodup ∧ l.links <+: x.library.links ∧
      (∀ more, x.library.links <+: (x.run more).library.links) ∧
      x.sessions.map (·.call) = calls ∧
      x.library.links.length = l.links.length + x.added ∧
      (∀ s ∈ x.sessions, ∀ labelIds itemIds result, s.call.request.action = .addLabels labelIds →
        s.stage.result? = some (itemIds, result) →
        result.matched = itemIds.length ∧
        (∃ f earlier, s.call.filter = .ok f ∧ earlier <+: schedule ∧
          ((begin l calls).run earlier).library.matchingIds s.call.clock f = .ok itemIds) ∧
        ∀ itemId ∈ itemIds, ∀ labelId ∈ labelIds, ⟨labelId, itemId⟩ ∈ x.library.links) ∧
      ∃ more, ∀ s ∈ (x.run more).sessions, s.stage.isAnswered = true := by
  intro x
  have hgrows : l.GrowsTo x.library := (begin l calls).growsTo_run schedule
  have hreached := reached_run l calls schedule
  refine ⟨hgrows.nodup_links hlinks, hgrows.prefix_links,
    fun more => (x.growsTo_run more).prefix_links, hreached.calls, hreached.count, ?_,
    x.exists_answered⟩
  intro s hs labelIds itemIds result hadd hresult
  have hstage := hreached.sessions s hs
  rw [BulkStage.result?_eq_some hresult] at hstage
  cases hstage with
  | updated haction => exact absurd hadd (haction labelIds)
  | labelled hadd' hids hmatched hpairs =>
    cases hadd.symm.trans hadd'
    obtain ⟨f, _, hf, ⟨earlier, hearlier, rfl⟩, hids⟩ := hids
    exact ⟨hmatched, ⟨f, earlier, hf, hearlier, hids⟩, hpairs⟩

/-- Two identical requests that both find two links missing; the second one inserts them first. -/
theorem interleaved_labels_both_missing :
    let now : Time.Instant := .ofSeconds 1710498600
    let l : Library :=
      { items := [Item.saved "a" "u1" "Notes" .epoch, Item.saved "b" "u1" "Notes" .epoch]
        labels := [⟨"x", "u1", "later"⟩]
        links := [⟨"z", "c"⟩] }
    let c : BulkCall := ⟨{}, now, ⟨now, 0⟩, ⟨"u1", "", .addLabels ["x"], false⟩⟩
    l.links.Nodup ∧ ∃ x, (begin l [c, c]).run [0, 0, 0, 1, 1, 1, 1, 0] = x ∧
      x.sessions.map (·.stage.result?) =
        [some (["a", "b"], ⟨2, 0⟩), some (["a", "b"], ⟨2, 2⟩)] ∧
      x.library.links.Nodup ∧ x.library.links.length = 3 ∧
      ∀ itemId ∈ ["a", "b"], ⟨"x", itemId⟩ ∈ x.library.links := by
  intro now l c
  have hlinks : l.links.Nodup := by decide
  obtain ⟨x, hx⟩ : ∃ x, (begin l [c, c]).run [0, 0, 0, 1, 1, 1, 1, 0] = x := ⟨_, rfl⟩
  have hresults : x.sessions.map (·.stage.result?) =
      [some (["a", "b"], ⟨2, 0⟩), some (["a", "b"], ⟨2, 2⟩)] := by
    rw [← hx]
    decide +kernel
  have hadded : x.added = 2 := by
    rw [← hx]
    decide +kernel
  have hrun := interleaved_labels hlinks [c, c] [0, 0, 0, 1, 1, 1, 1, 0]
  rw [hx] at hrun
  obtain ⟨hnodup, -, -, hcalls, hcount, hlabelled, -⟩ := hrun
  rw [hadded] at hcount
  refine ⟨hlinks, x, hx, hresults, hnodup, hcount, ?_⟩
  have hmem : some (["a", "b"], ⟨2, 0⟩) ∈ x.sessions.map (·.stage.result?) := by
    rw [hresults]
    exact List.mem_cons_self
  obtain ⟨s, hs, hresult⟩ := List.mem_map.mp hmem
  have hcall : s.call = c := by
    have hcalled : s.call ∈ x.sessions.map (·.call) := List.mem_map_of_mem hs
    rw [hcalls] at hcalled
    simpa using hcalled
  obtain ⟨-, -, hpairs⟩ := hlabelled s hs ["x"] ["a", "b"] ⟨2, 0⟩ (by rw [hcall]) hresult
  exact fun itemId hitem => hpairs itemId hitem "x" List.mem_cons_self

end Service

end ReadLater
