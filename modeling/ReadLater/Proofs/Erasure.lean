import ReadLater.Proofs.Compilation
import ReadLater.Proofs.LowerCase
import ReadLater.Proofs.Typing

/-!
# Contributions without their values

Erasing the values of its parameters leaves of a contribution the predicate, the names and kinds of
the parameters, and the order. That much depends on the text of an operand only through what a field
tells apart: the place of `in:`, the keyword of `is:`, `has:` and `no:`, the stars of labels, a
comparison sign, and the operand of `sort:` as a whole.
-/

namespace ReadLater

/-- A fixed value of the same kind. -/
def ParameterValue.erase : ParameterValue → ParameterValue
  | .text _ => .text ""
  | .list _ => .list []
  | .int _ => .int 0
  | .time _ => .time .epoch

def Parameter.erase (p : Parameter) : Parameter :=
  ⟨p.name, p.value.erase⟩

/-- The name of a parameter and the kind of its value. -/
def Parameter.signature (p : Parameter) : String × ValueKind :=
  (p.name, p.value.kind)

lemma ParameterValue.kind_erase (v : ParameterValue) : v.erase.kind = v.kind := by
  cases v <;> rfl

lemma Parameter.signature_erase (p : Parameter) : p.erase.signature = p.signature :=
  Prod.ext rfl p.value.kind_erase

def Contribution.erase (c : Contribution) : Contribution :=
  { c with parameters := c.parameters.map Parameter.erase }

/-- What `in:` asks for. -/
inductive Place
  | all
  | archive
  | trash
  | folder
deriving DecidableEq, Repr

namespace TagOperand

def place (t : TagOperand) : Place :=
  if t.lowered = "all" then .all
  else if t.lowered = "archive" then .archive
  else if t.lowered = "trash" then .trash
  else .folder

/-- Which labels have stars. -/
def stars (t : TagOperand) : List Bool :=
  t.pieces.map fun label => label.toList.contains '*'

def comparison? (t : TagOperand) : Option Comparison :=
  (splitComparison? t.value.toList).map Prod.fst

end TagOperand

/-- The operands differ only in what a field passes on as the value of a parameter. -/
def Keyword.Alike (k : Keyword) (s t : TagOperand) : Prop :=
  match k with
  | .inPlace => s.place = t.place
  | .isProgress | .has | .no => s.lowered = t.lowered
  | .label => s.stars = t.stars
  | .recommendedBy => s.value = "*" ↔ t.value = "*"
  | .readPosition | .wordsCount => s.comparison? = t.comparison?
  | .sort => s.value = t.value
  | .author | .description | .includes | .language | .mode | .note | .published | .read | .rss
  | .saved | .site | .subscription | .title | .itemType | .updated | .use => True

namespace TagOperand

variable {s t : TagOperand} {c d : Contribution}

lemma freeText_erase (s t : TagOperand) (bound : Nat) :
    (s.freeText bound).erase = (t.freeText bound).erase := rfl

lemma term_erase (s t : TagOperand) (stem : String) (column : Column) (bound : Nat) :
    (s.term stem column bound).erase = (t.term stem column bound).erase := rfl

lemma wording_erase (s t : TagOperand) (stem : String) (column : Column) (bound : Nat) :
    (s.wording stem column bound).erase = (t.wording stem column bound).erase := by
  simp [wording, Contribution.erase, Parameter.erase, ParameterValue.erase]

lemma inPlace_erase (h : s.place = t.place) (foldersScoped : Bool) (bound : Nat) :
    (s.inPlace foldersScoped bound).erase = (t.inPlace foldersScoped bound).erase := by
  unfold place at h
  unfold inPlace
  split_ifs at h ⊢ <;> rfl

lemma isProgress_erase (h : s.lowered = t.lowered) (hs : s.isProgress = .ok c)
    (ht : t.isProgress = .ok d) : c.erase = d.erase := by
  unfold isProgress at hs ht
  rw [h] at hs
  split_ifs at hs ht <;> cases hs <;> cases ht <;> rfl

lemma has_erase (h : s.lowered = t.lowered) (hs : s.has = .ok c) (ht : t.has = .ok d) :
    c.erase = d.erase := by
  unfold has at hs ht
  rw [h] at hs
  split_ifs at hs ht <;> cases hs <;> cases ht <;> rfl

lemma no_erase (h : s.lowered = t.lowered) (hs : s.no = .ok c) (ht : t.no = .ok d) :
    c.erase = d.erase := by
  unfold no at hs ht
  rw [h] at hs
  split_ifs at hs ht <;> cases hs <;> cases ht <;> rfl

lemma labelTest_erase {a b : String} (h : a.toList.contains '*' = b.toList.contains '*')
    (name : String) : (labelTest name a).1 = (labelTest name b).1 ∧
      (labelTest name a).2.erase = (labelTest name b).2.erase := by
  unfold labelTest
  rw [h]
  split_ifs <;> exact ⟨rfl, rfl⟩

lemma anyLabel_erase (bound : Nat) (test : Predicate) {ps qs : List Parameter}
    (hps : ps.map Parameter.erase = qs.map Parameter.erase) {xs ys : List String}
    (hlabels : List.Forall₂ (fun a b : String => a.toList.contains '*' = b.toList.contains '*')
      xs ys) :
    (anyLabel bound test ps xs).erase = (anyLabel bound test qs ys).erase := by
  induction hlabels generalizing bound test ps qs with
  | nil => simp [anyLabel, Contribution.erase, hps]
  | @cons a b xs ys hab _ ih =>
    obtain ⟨htest, hvalue⟩ := labelTest_erase hab (numbered "label" bound)
    simp only [anyLabel]
    rw [htest]
    exact ih (bound + 1) _ (by simp [Parameter.erase, hps, hvalue])

lemma label_erase (h : s.stars = t.stars) {bound : Nat} (hs : s.label bound = .ok c)
    (ht : t.label bound = .ok d) : c.erase = d.erase := by
  obtain ⟨a, xs, hxs, rfl⟩ := label_eq_ok hs
  obtain ⟨b, ys, hys, rfl⟩ := label_eq_ok ht
  have hlabels : List.Forall₂ (fun a b : String => a.toList.contains '*' = b.toList.contains '*')
      (s.pieces.map Text.lower) (t.pieces.map Text.lower) := by
    rw [List.forall₂_map_left_iff, List.forall₂_map_right_iff]
    simp only [Text.contains_star_lower]
    rwa [stars, stars, ← List.forall₂_eq_eq_eq, List.forall₂_map_left_iff,
      List.forall₂_map_right_iff] at h
  rw [hxs, hys] at hlabels
  obtain ⟨hab, hrest⟩ := List.forall₂_cons.mp hlabels
  obtain ⟨htest, hvalue⟩ := labelTest_erase hab (numbered "label" bound)
  rw [htest]
  exact anyLabel_erase _ _ (by simp [Parameter.erase, hvalue]) hrest

lemma includes_erase {bound : Nat} (hs : s.includes bound = .ok c) (ht : t.includes bound = .ok d) :
    c.erase = d.erase := by
  rw [includes_eq_ok hs, includes_eq_ok ht]
  rfl

lemma recommendedBy_erase (h : s.value = "*" ↔ t.value = "*") (bound : Nat) :
    (s.recommendedBy bound).erase = (t.recommendedBy bound).erase := by
  unfold recommendedBy
  simp only [h]
  split_ifs <;> rfl

lemma date_erase {stem : String} {column : Column} {o o' : CompileOptions} {bound : Nat}
    (hs : s.date stem column o bound = .ok c) (ht : t.date stem column o' bound = .ok d) :
    c.erase = d.erase := by
  obtain ⟨start, stop, rfl⟩ := date_eq_ok hs
  obtain ⟨start', stop', rfl⟩ := date_eq_ok ht
  rfl

lemma number_erase (h : s.comparison? = t.comparison?) {stem : String} {column : Column}
    {bound : Nat} (hs : s.number stem column bound = .ok c)
    (ht : t.number stem column bound = .ok d) : c.erase = d.erase := by
  obtain ⟨x, _, m, hx, rfl⟩ := number_eq_ok hs
  obtain ⟨y, _, n, hy, rfl⟩ := number_eq_ok ht
  have hxy : x = y := by simpa [comparison?, hx, hy] using h
  rw [hxy]
  rfl

lemma sort_erase (h : s.value = t.value) (hs : s.sort = .ok c) (ht : t.sort = .ok d) :
    c.erase = d.erase := by
  simp only [sort, h] at hs ht
  split at hs
  · cases hs
  · rename_i hkey
    rw [if_neg hkey] at ht
    split at hs
    · cases hs
    · rename_i key hsort
      simp only [hsort] at ht
      cases hs
      cases ht
      rfl

end TagOperand

/-- What a field tells apart decides all of a contribution but its values. -/
theorem Keyword.contribution_erase {k : Keyword} {s t : TagOperand} (h : k.Alike s t)
    {o o' : CompileOptions} (hscope : o.foldersScoped = o'.foldersScoped) {bound : Nat}
    {c d : Contribution} (hs : k.contribution o bound s = .ok c)
    (ht : k.contribution o' bound t = .ok d) : c.erase = d.erase := by
  cases k with
  | inPlace =>
    rw [← Except.ok.inj hs, ← Except.ok.inj ht, hscope]
    exact TagOperand.inPlace_erase h _ bound
  | isProgress => exact TagOperand.isProgress_erase h hs ht
  | has => exact TagOperand.has_erase h hs ht
  | no => exact TagOperand.no_erase h hs ht
  | label => exact TagOperand.label_erase h hs ht
  | sort =>
    simp only [contribution] at hs ht
    exact TagOperand.sort_erase h hs ht
  | saved | read | updated | published =>
    simp only [contribution] at hs ht
    exact TagOperand.date_erase hs ht
  | includes => exact TagOperand.includes_erase hs ht
  | readPosition | wordsCount =>
    simp only [contribution] at hs ht
    exact TagOperand.number_erase h hs ht
  | recommendedBy =>
    rw [← Except.ok.inj hs, ← Except.ok.inj ht]
    exact TagOperand.recommendedBy_erase h bound
  | itemType | subscription | rss | language =>
    rw [← Except.ok.inj hs, ← Except.ok.inj ht]
    exact TagOperand.term_erase s t _ _ bound
  | author | title | description | note | site =>
    rw [← Except.ok.inj hs, ← Except.ok.inj ht]
    exact TagOperand.wording_erase s t _ _ bound
  | use | mode => rw [← Except.ok.inj hs, ← Except.ok.inj ht]

end ReadLater
