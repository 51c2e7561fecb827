/-! # Splitting at a separator -/

namespace ReadLater.Text

/-- What stands before and after the first occurrence of `separator`. -/
def splitOnce? (separator : Char) : List Char → Option (List Char × List Char)
  | [] => none
  | c :: rest =>
    if c = separator then some ([], rest)
    else (splitOnce? separator rest).map fun (before, after) => (c :: before, after)

theorem splitOnce?_of_notMem {separator : Char} {cs : List Char} (h : separator ∉ cs)
    (rest : List Char) : splitOnce? separator (cs ++ separator :: rest) = some (cs, rest) := by
  induction cs with
  | nil => simp [splitOnce?]
  | cons c cs ih =>
    have hc : c ≠ separator := fun heq => h (heq ▸ List.mem_cons_self)
    have hcs : separator ∉ cs := fun hmem => h (List.mem_cons_of_mem c hmem)
    simp [splitOnce?, hc, ih hcs]

theorem eq_append_of_splitOnce? {separator : Char} {cs before after : List Char}
    (h : splitOnce? separator cs = some (before, after)) : cs = before ++ separator :: after := by
  induction cs generalizing before with
  | nil => cases h
  | cons c rest ih =>
    rw [splitOnce?] at h
    by_cases hc : c = separator
    · rw [if_pos hc] at h
      cases h
      rw [hc, List.nil_append]
    · rw [if_neg hc] at h
      obtain ⟨⟨before', after'⟩, hrest, hsplit⟩ := Option.map_eq_some_iff.mp h
      cases hsplit
      rw [List.cons_append, ← ih hrest]

/-- The pieces between the characters for which `isSeparator` holds. -/
def splitBy (isSeparator : Char → Bool) : List Char → List (List Char)
  | [] => [[]]
  | c :: rest =>
    match splitBy isSeparator rest with
    | [] => [[c]]
    | piece :: pieces => if isSeparator c then [] :: piece :: pieces else (c :: piece) :: pieces

theorem splitBy_of_forall_not {isSeparator : Char → Bool} {cs : List Char}
    (h : ∀ c ∈ cs, isSeparator c = false) : splitBy isSeparator cs = [cs] := by
  induction cs with
  | nil => rfl
  | cons c rest ih =>
    have hc := h c List.mem_cons_self
    have hrest := ih fun d hd => h d (List.mem_cons_of_mem c hd)
    simp [splitBy, hrest, hc]

theorem exists_splitBy_cons (isSeparator : Char → Bool) (cs : List Char) :
    ∃ piece pieces, splitBy isSeparator cs = piece :: pieces := by
  cases cs with
  | nil => exact ⟨[], [], rfl⟩
  | cons c rest =>
    rw [splitBy]
    split
    · exact ⟨_, _, rfl⟩
    · split <;> exact ⟨_, _, rfl⟩

theorem splitBy_cons_of_separator {isSeparator : Char → Bool} {c : Char} (h : isSeparator c = true)
    (cs : List Char) : splitBy isSeparator (c :: cs) = [] :: splitBy isSeparator cs := by
  obtain ⟨piece, pieces, hcs⟩ := exists_splitBy_cons isSeparator cs
  rw [splitBy, hcs]
  exact if_pos h

theorem splitBy_cons_of_not {isSeparator : Char → Bool} {c : Char} {cs piece : List Char}
    {pieces : List (List Char)} (h : ¬isSeparator c = true)
    (hcs : splitBy isSeparator cs = piece :: pieces) :
    splitBy isSeparator (c :: cs) = (c :: piece) :: pieces := by
  rw [splitBy, hcs]
  exact if_neg h

/-- A separator parts the pieces before it from those after it. -/
theorem splitBy_append (isSeparator : Char → Bool) {c : Char} (h : isSeparator c = true)
    (cs ds : List Char) :
    splitBy isSeparator (cs ++ c :: ds) = splitBy isSeparator cs ++ splitBy isSeparator ds := by
  induction cs with
  | nil =>
    rw [List.nil_append, splitBy_cons_of_separator h]
    rfl
  | cons d cs ih =>
    rw [List.cons_append]
    by_cases hd : isSeparator d = true
    · rw [splitBy_cons_of_separator hd, splitBy_cons_of_separator hd, ih]
      rfl
    · obtain ⟨piece, pieces, hcs⟩ := exists_splitBy_cons isSeparator cs
      rw [hcs] at ih
      rw [splitBy_cons_of_not hd hcs, splitBy_cons_of_not hd ih]
      rfl

/-- Whether `part` occurs in `cs` as a contiguous run. -/
def containsRun (part : List Char) : List Char → Bool
  | [] => part.isEmpty
  | c :: rest => part.isPrefixOf (c :: rest) || containsRun part rest

end ReadLater.Text
