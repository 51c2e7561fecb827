import Mathlib.Logic.Relation
import ReadLater.Proofs.LabelLinks

/-!
# Bulk requests call by call

Adding labels takes up to four calls to the library: for the labels, for the ids of the matching
items, for the links that these have, and for the insertion of the others. Any other action is one
call. Between the calls of one request those of others may come. A request that has the library to
itself answers as if it were a single step.
-/

namespace ReadLater

/-- How far a bulk request has come, with what it has read and still needs. -/
inductive BulkStage
  | begun
  | labelsFound (f : Filter) (labels : List Label)
  | itemsFound (labels : List Label) (itemIds : List String)
  | linksFound (itemIds : List String) (missing : List LabelLink)
  /-- The ids are those that labels were to be added to. -/
  | answered (itemIds : List String) (answer : Except RequestError BulkResult)

namespace BulkStage

/-- The most calls that may be left. -/
def remaining : BulkStage → Nat
  | .begun => 4
  | .labelsFound .. => 3
  | .itemsFound .. => 2
  | .linksFound .. => 1
  | .answered .. => 0

def isAnswered (stage : BulkStage) : Bool :=
  stage.remaining == 0

end BulkStage

namespace BulkCall

/-- The first call of a request, once its query is compiled. -/
def start (c : BulkCall) (l : Library) (f : Filter) : Library × BulkStage :=
  match c.request.action with
  | .addLabels labelIds =>
    let labels := l.findLabels c.request.userId labelIds
    match labelIds.find? fun id => !labels.any fun label => label.id == id with
    | some missing => (l, .answered [] (.error (.unknownLabel missing)))
    | none => (l, .labelsFound f labels)
  | action =>
    match l.update c.clock f ((action.changes? c.now.instant).getD {}) with
    | .ok (after, n) => (after, .answered [] (.ok ⟨n, n⟩))
    | .error e => (l, .answered [] (.error (.store e)))

/-- The next call of a request, and the library after it. Where nothing is to be read or inserted,
the request is answered without a further call. -/
def advance (c : BulkCall) (l : Library) : BulkStage → Library × BulkStage
  | .begun =>
    match c.filter with
    | .ok f => c.start l f
    | .error e => (l, .answered [] (.error e))
  | .labelsFound f labels =>
    match l.matchingIds c.clock f with
    | .ok [] => (l, .answered [] (.ok ⟨0, 0⟩))
    | .ok itemIds => (l, .itemsFound labels itemIds)
    | .error e => (l, .answered [] (.error (.store e)))
  | .itemsFound labels itemIds =>
    match l.missingLinks itemIds labels with
    | [] => (l, .answered itemIds (.ok ⟨itemIds.length, 0⟩))
    | missing => (l, .linksFound itemIds missing)
  | .linksFound itemIds missing =>
    let (after, inserted) := l.insertLinks missing
    (after, .answered itemIds (.ok ⟨itemIds.length, inserted⟩))
  | .answered itemIds answer => (l, .answered itemIds answer)

/-- What one call of a request can do. -/
inductive Advances (c : BulkCall) (l : Library) : BulkStage → Library → BulkStage → Prop
  | failed {stage e} : stage.isAnswered = false → Advances c l stage l (.answered [] (.error e))
  | updated {f after n} : (∀ labelIds, c.request.action ≠ .addLabels labelIds) →
      c.filter = .ok f →
      l.update c.clock f ((c.request.action.changes? c.now.instant).getD {}) = .ok (after, n) →
      Advances c l .begun after (.answered [] (.ok ⟨n, n⟩))
  | labels {f labelIds} : c.request.action = .addLabels labelIds → c.filter = .ok f →
      l.HasLabels c.request.userId labelIds →
      Advances c l .begun l (.labelsFound f (l.findLabels c.request.userId labelIds))
  | noItems {f labels} : l.matchingIds c.clock f = .ok [] →
      Advances c l (.labelsFound f labels) l (.answered [] (.ok ⟨0, 0⟩))
  | items {f labels itemIds} : l.matchingIds c.clock f = .ok itemIds →
      Advances c l (.labelsFound f labels) l (.itemsFound labels itemIds)
  | noLinks {labels itemIds} : l.missingLinks itemIds labels = [] →
      Advances c l (.itemsFound labels itemIds) l
        (.answered itemIds (.ok ⟨itemIds.length, 0⟩))
  | links {labels itemIds} :
      Advances c l (.itemsFound labels itemIds) l
        (.linksFound itemIds (l.missingLinks itemIds labels))
  | inserted {itemIds missing} :
      Advances c l (.linksFound itemIds missing) (l.insertLinks missing).1
        (.answered itemIds (.ok ⟨itemIds.length, (l.insertLinks missing).2⟩))

variable {c : BulkCall} {l m : Library} {stage stage' : BulkStage} {f : Filter}

lemma advances_start (h : c.filter = .ok f) :
    c.Advances l .begun (c.start l f).1 (c.start l f).2 := by
  unfold start
  cases haction : c.request.action with
  | addLabels labelIds =>
    dsimp only
    split
    · exact .failed rfl
    · rename_i hknown
      exact .labels haction h (Library.unknown_eq_none_iff.mp hknown)
  | archive | delete | markRead | move =>
    dsimp only
    split
    · rename_i hupdate
      exact .updated (by simp [haction]) h (by rwa [haction])
    · exact .failed rfl

theorem advances_advance (c : BulkCall) (l : Library) (h : stage.isAnswered = false) :
    c.Advances l stage (c.advance l stage).1 (c.advance l stage).2 := by
  cases stage with
  | begun =>
    rw [advance]
    split
    · rename_i hf
      exact advances_start hf
    · exact .failed rfl
  | labelsFound f labels =>
    rw [advance]
    split
    · rename_i hids
      exact .noItems hids
    · rename_i hids
      exact .items hids
    · exact .failed rfl
  | itemsFound labels itemIds =>
    rw [advance]
    split
    · rename_i hnone
      exact .noLinks hnone
    · exact .links
  | linksFound itemIds missing => exact .inserted
  | answered itemIds answer => cases h

lemma advance_of_isAnswered (c : BulkCall) (l : Library) (h : stage.isAnswered = true) :
    c.advance l stage = (l, stage) := by
  cases stage with
  | answered => rfl
  | begun | labelsFound | itemsFound | linksFound => cases h

lemma Advances.remaining_lt (h : c.Advances l stage m stage') :
    stage'.remaining < stage.remaining := by
  cases h with
  | failed hopen =>
    rw [BulkStage.isAnswered, beq_eq_false_iff_ne] at hopen
    exact Nat.pos_of_ne_zero hopen
  | updated | labels | noItems | items | noLinks | links | inserted =>
    simp [BulkStage.remaining]

lemma Advances.growsTo (h : c.Advances l stage m stage') : l.GrowsTo m := by
  cases h with
  | updated _ _ hupdate => exact Library.growsTo_update hupdate
  | inserted => exact Library.growsTo_insertLinks _ _
  | failed | labels | noItems | items | noLinks | links => exact .refl l

/-- What comes of a request if no other one calls any more. -/
def outcome (c : BulkCall) (l : Library) : BulkStage → Library × Except RequestError BulkResult
  | .begun =>
    match l.bulk c.clock c.settings c.request c.now with
    | .ok (after, result) => (after, .ok result)
    | .error e => (l, .error e)
  | .labelsFound f labels =>
    match l.matchingIds c.clock f with
    | .ok itemIds =>
      let (after, inserted) := l.insertLinks (l.missingLinks itemIds labels)
      (after, .ok ⟨itemIds.length, inserted⟩)
    | .error e => (l, .error (.store e))
  | .itemsFound labels itemIds =>
    let (after, inserted) := l.insertLinks (l.missingLinks itemIds labels)
    (after, .ok ⟨itemIds.length, inserted⟩)
  | .linksFound itemIds missing =>
    let (after, inserted) := l.insertLinks missing
    (after, .ok ⟨itemIds.length, inserted⟩)
  | .answered _ answer => (l, answer)

lemma outcome_start (h : c.filter = .ok f) :
    c.outcome (c.start l f).1 (c.start l f).2 = c.outcome l .begun := by
  have hfilter : c.request.filter c.settings c.now = .ok f := h
  unfold start outcome Library.bulk
  cases haction : c.request.action with
  | addLabels labelIds =>
    simp only [hfilter, Library.addLabels, bind, Except.bind]
    cases labelIds.find? fun id =>
        !(l.findLabels c.request.userId labelIds).any fun label => label.id == id with
    | some missing => rfl
    | none =>
      dsimp only
      cases l.matchingIds c.clock f <;> rfl
  | archive | delete | markRead | move =>
    simp only [hfilter, bind, Except.bind]
    cases l.update c.clock f (_) <;> rfl

/-- Its calls, one after the other, come to the request in one step. -/
theorem outcome_advance (c : BulkCall) (l : Library) (stage : BulkStage) :
    c.outcome (c.advance l stage).1 (c.advance l stage).2 = c.outcome l stage := by
  cases stage with
  | begun =>
    rw [advance]
    cases hf : c.filter with
    | ok f => exact outcome_start hf
    | error e =>
      have hbulk : l.bulk c.clock c.settings c.request c.now = .error e :=
        Library.bulk_of_filter_error hf
      simp only [outcome, hbulk]
  | labelsFound f labels =>
    rw [advance, outcome]
    cases l.matchingIds c.clock f with
    | error e => rfl
    | ok itemIds => cases itemIds <;> rfl
  | itemsFound labels itemIds =>
    rw [advance, outcome]
    split
    · rename_i hnone
      rw [hnone]
      rfl
    · rfl
  | linksFound itemIds missing => rfl
  | answered itemIds answer => rfl

lemma eq_of_outcome_error {e : RequestError} (h : c.outcome l stage = (m, .error e)) : m = l := by
  cases stage with
  | begun =>
    rw [outcome] at h
    split at h
    · cases h
    · cases h
      rfl
  | labelsFound f labels =>
    rw [outcome] at h
    split at h
    · cases h
    · cases h
      rfl
  | itemsFound | linksFound => cases h
  | answered =>
    cases h
    rfl

end BulkCall

end ReadLater
