import Mathlib.Tactic.Lemma
import Mathlib.Tactic.SplitIfs
import ReadLater.Json.Parse

/-!
# What readers take

A reader takes the front of a text and leaves the rest. Where it stands in the whole text does not
matter, and a loop is not cut short, because each of its rounds takes a character.
-/

namespace ReadLater.Json.Reader

variable {α β σ : Type} {cs ds es : List Char} {a : α} {b : β}

/-- `Takes r cs a ds`: of the text `cs` the reader takes a front that gives `a` and leaves `ds`. -/
structure Takes (r : Reader α) (cs : List Char) (a : α) (ds : List Char) : Prop where
  length_le : ds.length ≤ cs.length
  run : ∀ offset bound, cs.length < bound →
    ∃ offset', StateT.run r ⟨cs, offset, bound⟩ = .ok (a, ⟨ds, offset', bound⟩)

lemma takes_pure (a : α) (cs : List Char) : Takes (pure a) cs a cs :=
  ⟨Nat.le_refl _, fun offset _ _ => ⟨offset, rfl⟩⟩

lemma Takes.bind {r : Reader α} {f : α → Reader β} (h : Takes r cs a ds)
    (hf : Takes (f a) ds b es) : Takes (r >>= f) cs b es := by
  refine ⟨Nat.le_trans hf.length_le h.length_le, fun offset bound hbound => ?_⟩
  obtain ⟨offset', hr⟩ := h.run offset bound hbound
  obtain ⟨offset'', hs⟩ := hf.run offset' bound (Nat.lt_of_le_of_lt h.length_le hbound)
  refine ⟨offset'', ?_⟩
  rw [StateT.run_bind, hr]
  exact hs

lemma Takes.map {r : Reader α} (h : Takes r cs a ds) (f : α → β) :
    Takes (f <$> r) cs (f a) ds := by
  rw [map_eq_pure_bind]
  exact h.bind (takes_pure (f a) ds)

lemma takes_peek (cs : List Char) : Takes peek cs cs.head? cs :=
  ⟨Nat.le_refl _, fun offset _ _ => ⟨offset, rfl⟩⟩

lemma takes_advance (c : Char) (cs : List Char) : Takes advance (c :: cs) () cs :=
  ⟨Nat.le_succ _, fun offset _ _ => ⟨offset + c.utf8Size, rfl⟩⟩

lemma takes_takeWhile (p : Char → Bool) (cs : List Char) :
    Takes (takeWhile p) cs (cs.takeWhile p) (cs.dropWhile p) :=
  ⟨(List.dropWhile_sublist p).length_le, fun _ _ _ => ⟨_, rfl⟩⟩

lemma exists_run_of_bind {r : Reader α} {f : α → Reader β} {source : Source} {result : β × Source}
    (h : StateT.run (r >>= f) source = .ok result) :
    ∃ a rest, StateT.run r source = .ok (a, rest) ∧ StateT.run (f a) rest = .ok result := by
  rw [StateT.run_bind] at h
  cases hr : StateT.run r source with
  | error fault =>
    rw [hr] at h
    cases h
  | ok first =>
    rw [hr] at h
    exact ⟨first.1, first.2, rfl, h⟩

lemma Takes.run_of_bind {r : Reader α} {f : α → Reader β} (h : Takes r cs a ds)
    {offset bound : Nat} (hbound : cs.length < bound) {result : β × Source}
    (hrun : StateT.run (r >>= f) ⟨cs, offset, bound⟩ = .ok result) :
    ∃ offset', StateT.run (f a) ⟨ds, offset', bound⟩ = .ok result := by
  obtain ⟨offset', hok⟩ := h.run offset bound hbound
  obtain ⟨_, _, hfirst, hrest⟩ := exists_run_of_bind hrun
  cases hok.symm.trans hfirst
  exact ⟨offset', hrest⟩

lemma exists_run_of_whole {r : Reader α} {text : String} (h : whole r text = .ok a) :
    ∃ source, StateT.run r (.ofText text) = .ok (a, source) := by
  unfold whole at h
  dsimp only at h
  generalize hending : (do
    let b ← r
    if (← next).isSome then unexpected .trailingCharacters
    return b : Reader α) = ending at h
  cases hrun : StateT.run ending (.ofText text) with
  | error fault =>
    rw [hrun] at h
    cases h
  | ok result =>
    rw [hrun] at h
    cases h
    subst hending
    obtain ⟨b, source, hb, hrest⟩ := exists_run_of_bind hrun
    obtain ⟨c, source', -, hc⟩ := exists_run_of_bind hrest
    cases c with
    | none =>
      cases hc
      exact ⟨source, hb⟩
    | some c => cases hc

/-- Only blanks. -/
def Blanks (cs : List Char) : Prop :=
  ∀ c ∈ cs, isJsonBlank c = true

lemma takes_next {blanks : List Char} (hblanks : Blanks blanks) {c : Char}
    (hc : isJsonBlank c = false) (cs : List Char) :
    Takes next (blanks ++ c :: cs) (some c) (c :: cs) := by
  have hstop : ∀ d, (c :: cs).head? = some d → isJsonBlank d = false := by
    intro d hd
    cases hd
    exact hc
  have hskip := takes_takeWhile isJsonBlank (blanks ++ c :: cs)
  rw [List.dropWhile_append_of_pos hblanks, List.dropWhile_cons_of_neg (by simp [hc])] at hskip
  exact hskip.bind (takes_peek (c :: cs))

lemma takes_next_end {blanks : List Char} (hblanks : Blanks blanks) :
    Takes next blanks none [] := by
  have hskip := takes_takeWhile isJsonBlank (blanks ++ [])
  rw [List.dropWhile_append_of_pos hblanks, List.dropWhile_nil, List.append_nil] at hskip
  exact hskip.bind (takes_peek [])

lemma takes_word (w cs : List Char) : Takes (word w) (w ++ cs) () cs := by
  induction w with
  | nil => exact takes_pure () cs
  | cons c w ih =>
    rw [word]
    refine (takes_peek _).bind ?_
    simp only [List.cons_append, List.head?_cons, if_true]
    exact (takes_advance c _).bind ih

/-- The rounds of a loop up to its result; each takes at least one character. -/
inductive Loops (step : σ → Reader (σ ⊕ α)) : σ → List Char → α → List Char → Prop
  | stop {s cs a ds} : Takes (step s) cs (.inr a) ds → Loops step s cs a ds
  | go {s s' cs ds a es} : Takes (step s) cs (.inl s') ds → ds.length < cs.length →
      Loops step s' ds a es → Loops step s cs a es

theorem Loops.takes {step : σ → Reader (σ ⊕ α)} {s : σ} (h : Loops step s cs a ds) :
    Takes (loop step s) cs a ds := by
  have hrun : ds.length ≤ cs.length ∧ ∀ offset bound fuel, cs.length < bound → cs.length < fuel →
      ∃ offset', iterate step fuel s ⟨cs, offset, bound⟩ = .ok (a, ⟨ds, offset', bound⟩) := by
    induction h with
    | stop hstep =>
      refine ⟨hstep.length_le, fun offset bound fuel hbound hfuel => ?_⟩
      obtain ⟨fuel, rfl⟩ := Nat.exists_eq_add_one_of_ne_zero (Nat.ne_zero_of_lt hfuel)
      obtain ⟨offset', hok⟩ := hstep.run offset bound hbound
      exact ⟨offset', by rw [iterate, hok]⟩
    | go hstep hshort _ ih =>
      refine ⟨Nat.le_trans ih.1 hstep.length_le, fun offset bound fuel hbound hfuel => ?_⟩
      obtain ⟨fuel, rfl⟩ := Nat.exists_eq_add_one_of_ne_zero (Nat.ne_zero_of_lt hfuel)
      obtain ⟨offset', hok⟩ := hstep.run offset bound hbound
      obtain ⟨offset'', hrest⟩ := ih.2 offset' bound fuel (by omega) (by omega)
      exact ⟨offset'', by rw [iterate, hok]; exact hrest⟩
  exact ⟨hrun.1, fun offset bound hbound => hrun.2 offset bound bound hbound hbound⟩

theorem Takes.whole {r : Reader α} {text : String} {blanks : List Char}
    (h : Takes r text.toList a blanks) (hblanks : Blanks blanks) : whole r text = .ok a := by
  have hending := h.bind (f := fun a => do
    if (← next).isSome then unexpected .trailingCharacters
    return a) ((takes_next_end hblanks).bind (takes_pure a []))
  obtain ⟨offset, hrun⟩ := hending.run 0 (2 * text.length + 2) (by
    have := String.length_toList (s := text)
    omega)
  unfold Reader.whole
  rw [Source.ofText]
  dsimp only
  rw [hrun]
  rfl

end ReadLater.Json.Reader
