import ReadLater.Json.Parse
import ReadLater.Proofs.JsonRows

/-!
# Values are read back

The compact form of a value is read as the value, if its lists and objects do not lie too deep
within each other and each of its numbers is read back. A value in normal form is left as it is.
-/

namespace ReadLater.Json

mutual

/-- How many lists and objects lie within each other. -/
def levels : Json → Nat
  | .array elements => levelsOfElements elements + 1
  | .object members => levelsOfMembers members + 1
  | _ => 0

def levelsOfElements : List Json → Nat
  | [] => 0
  | element :: rest => max element.levels (levelsOfElements rest)

def levelsOfMembers : List (String × Json) → Nat
  | [] => 0
  | (_, value) :: rest => max value.levels (levelsOfMembers rest)

end

lemma levels_le_of_mem {elements : List Json} {e : Json} (h : e ∈ elements) :
    e.levels ≤ levelsOfElements elements := by
  induction elements with
  | nil => cases h
  | cons element rest ih =>
    rw [levelsOfElements]
    rcases List.mem_cons.mp h with rfl | h
    · exact Nat.le_max_left _ _
    · exact Nat.le_trans (ih h) (Nat.le_max_right _ _)

lemma levels_le_of_mem_members {members : List (String × Json)} {m : String × Json}
    (h : m ∈ members) : m.2.levels ≤ levelsOfMembers members := by
  induction members with
  | nil => cases h
  | cons member rest ih =>
    rw [levelsOfMembers]
    rcases List.mem_cons.mp h with rfl | h
    · exact Nat.le_max_left _ _
    · exact Nat.le_trans (ih h) (Nat.le_max_right _ _)

lemma writeElements_eq (elements : List Json) :
    writeElements elements = row [] (elements.map write) := by
  induction elements with
  | nil => rfl
  | cons element rest ih =>
    cases rest with
    | nil => simp [writeElements, row]
    | cons next rest =>
      rw [writeElements, ih]
      · simp [row]
      · simp

/-- A name and the text after it, which starts with a colon. -/
def compactMember (m : String × Json) : String × List Char :=
  (m.1, ':' :: m.2.write)

lemma writeMembers_eq (members : List (String × Json)) :
    writeMembers members = row [] ((members.map compactMember).map Reader.memberText) := by
  induction members with
  | nil => rfl
  | cons m rest ih =>
    obtain ⟨name, value⟩ := m
    cases rest with
    | nil => simp [writeMembers, row, compactMember, Reader.memberText]
    | cons next rest =>
      rw [writeMembers, ih]
      · simp [row, compactMember, Reader.memberText]
      · simp

lemma exists_write_cons (json : Json) : ∃ c cs, json.write = c :: cs ∧ StartsValue c := by
  cases json with
  | array elements => exact ⟨'[', _, rfl, .inl (by decide)⟩
  | object members => exact ⟨'\x7b', _, rfl, .inl (by decide)⟩
  | null => exact exists_writeScalar_cons .null
  | bool b => exact exists_writeScalar_cons (.bool b)
  | number x => exact exists_writeScalar_cons (.number x)
  | string s => exact exists_writeScalar_cons (.string s)

/-- The numbers of the value are read back. -/
inductive Rereads : Json → Prop
  | null : Rereads .null
  | bool (b : Bool) : Rereads (.bool b)
  | number {x : Number} : x.IsRead → Rereads (.number x)
  | string (s : String) : Rereads (.string s)
  | array {elements : List Json} : (∀ e ∈ elements, Rereads e) → Rereads (.array elements)
  | object {members : List (String × Json)} :
      (∀ m ∈ members, Rereads m.2) → Rereads (.object members)

attribute [simp] Rereads.null Rereads.bool Rereads.string

@[simp] lemma rereads_number {x : Number} : (number x).Rereads ↔ x.IsRead :=
  ⟨fun | .number h => h, .number⟩

@[simp] lemma rereads_array {elements : List Json} :
    (array elements).Rereads ↔ ∀ e ∈ elements, e.Rereads :=
  ⟨fun | .array h => h, .array⟩

@[simp] lemma rereads_object {members : List (String × Json)} :
    (object members).Rereads ↔ ∀ m ∈ members, m.2.Rereads :=
  ⟨fun | .object h => h, .object⟩

namespace Reader

variable {rest : List Char}

lemma takes_value_number {x : Number} (h : x.IsRead) (hrest : EndsNumber rest) (depth : Nat) :
    Takes (value depth) (x.write ++ rest) (.number x) rest := by
  have hnumber := takes_written_number h hrest
  obtain ⟨n, hn, hwritten, -⟩ := h
  obtain ⟨c, hc, hnext⟩ := takes_next_written hn blanks_nil rest
  rw [hwritten] at hnext
  have hmark {d : Char} (hd : startsNumeral d = false) : c ≠ d := ne_of_startsNumeral hc hd
  have hbracket : ¬(c = '[' ∨ c = '\x7b') := not_or.mpr ⟨hmark rfl, hmark rfl⟩
  have hquote : c ≠ '"' := hmark rfl
  have hnull : c ≠ 'n' := hmark rfl
  have htrue : c ≠ 't' := hmark rfl
  have hfalse : c ≠ 'f' := hmark rfl
  unfold value
  refine hnext.bind ?_
  simp only [hbracket, hquote, hnull, htrue, hfalse, hc, if_false, if_true]
  exact hnumber.bind (takes_pure _ rest)

lemma takes_value_string (s : String) (rest : List Char) (depth : Nat) :
    Takes (value depth) (writeString s ++ rest) (.string s) rest := by
  unfold value
  rw [writeString_append]
  refine (takes_next (c := '"') blanks_nil rfl _).bind ?_
  exact (takes_advance '"' _).bind ((takes_stringRest s rest).bind (takes_pure _ rest))

lemma takes_value_array {elements : List Json} {depth : Nat}
    (h : ∀ e ∈ elements, ∀ {rest}, EndsNumber rest → Takes (value depth) (e.write ++ rest) e rest)
    (rest : List Char) :
    Takes (value (depth + 1)) ((Json.array elements).write ++ rest) (.array elements) rest := by
  have htexts : List.Forall₂ (TakesText (value depth)) (elements.map write) elements := by
    rw [List.forall₂_map_left_iff, List.forall₂_same]
    exact fun e he => ⟨e.exists_write_cons, h e he⟩
  have helements := takes_elements blanks_nil blanks_nil htexts rest
  unfold value
  rw [write, writeElements_eq, List.cons_append, List.cons_append, List.append_assoc]
  refine (takes_next (c := '[') blanks_nil rfl _).bind ?_
  exact (takes_advance '[' _).bind (helements.bind (takes_pure _ rest))

lemma takesMembers_pair {members : List (String × Json)} {reader : Reader Json}
    (h : ∀ m ∈ members, ∀ {rest}, EndsNumber rest → Takes reader (m.2.write ++ rest) m.2 rest)
    (before : List (String × Json)) :
    TakesMembers (pair reader) before (members.map compactMember) (members.reverse ++ before) := by
  induction members generalizing before with
  | nil => exact .nil
  | cons m ms ih =>
    rw [List.reverse_cons, List.append_assoc]
    refine .cons (fun hrest => ?_) (ih (fun k hk => h k (List.mem_cons_of_mem m hk)) (m :: before))
    exact (takes_colon _).bind ((h m List.mem_cons_self hrest).bind (takes_pure _ _))

lemma takes_value_object {members : List (String × Json)} {depth : Nat}
    (h : ∀ m ∈ members, ∀ {rest}, EndsNumber rest →
      Takes (value depth) (m.2.write ++ rest) m.2 rest) (rest : List Char) :
    Takes (value (depth + 1)) ((Json.object members).write ++ rest) (.object members) rest := by
  have hmembers := takes_members blanks_nil blanks_nil (takesMembers_pair h []) rest
  have hobject := hmembers.map fun read => Json.object read.reverse
  rw [List.append_nil, List.reverse_reverse] at hobject
  unfold value
  rw [write, writeMembers_eq, List.cons_append, List.cons_append, List.append_assoc]
  refine (takes_next (c := '\x7b') blanks_nil rfl _).bind ?_
  exact (takes_advance '\x7b' _).bind hobject

theorem takes_value {json : Json} (h : json.Rereads) {depth : Nat} (hdepth : json.levels ≤ depth)
    (hrest : EndsNumber rest) : Takes (value depth) (json.write ++ rest) json rest := by
  induction h generalizing depth rest with
  | null =>
    unfold value
    refine (takes_next (c := 'n') blanks_nil rfl _).bind ?_
    exact (takes_word ['n', 'u', 'l', 'l'] rest).bind (takes_pure _ rest)
  | bool b =>
    unfold value
    cases b with
    | true =>
      refine (takes_next (c := 't') blanks_nil rfl _).bind ?_
      exact (takes_word ['t', 'r', 'u', 'e'] rest).bind (takes_pure _ rest)
    | false =>
      refine (takes_next (c := 'f') blanks_nil rfl _).bind ?_
      exact (takes_word ['f', 'a', 'l', 's', 'e'] rest).bind (takes_pure _ rest)
  | number hx => exact takes_value_number hx hrest depth
  | string s => exact takes_value_string s rest depth
  -- a bracket takes one level from those that its elements may have
  | array _ ih =>
    rw [levels] at hdepth
    obtain ⟨depth, rfl⟩ := Nat.exists_eq_add_one_of_ne_zero (Nat.ne_zero_of_lt hdepth)
    refine takes_value_array (fun e he _ => ih e he ?_) rest
    exact Nat.le_trans (levels_le_of_mem he) (Nat.le_of_succ_le_succ hdepth)
  | object _ ih =>
    rw [levels] at hdepth
    obtain ⟨depth, rfl⟩ := Nat.exists_eq_add_one_of_ne_zero (Nat.ne_zero_of_lt hdepth)
    refine takes_value_object (fun m hm _ => ih m hm ?_) rest
    exact Nat.le_trans (levels_le_of_mem_members hm) (Nat.le_of_succ_le_succ hdepth)

end Reader

theorem read_compact {json : Json} (h : json.Rereads) (hlevels : json.levels ≤ nestingLimit) :
    read json.compact = .ok json := by
  have htakes := Reader.takes_value h hlevels endsNumber_nil
  rw [List.append_nil] at htakes
  refine Reader.Takes.whole ?_ Reader.blanks_nil
  rw [compact, String.toList_ofList]
  exact htakes

/-- The value is made of strings, booleans, nulls and integers of 64 bits, and each object is
ordered by name. -/
inductive IsPlain : Json → Prop
  | null : IsPlain .null
  | bool (b : Bool) : IsPlain (.bool b)
  | int {n : Int} : IsInt64 n → IsPlain (.number (.int n))
  | string (s : String) : IsPlain (.string s)
  | array {elements : List Json} : (∀ e ∈ elements, IsPlain e) → IsPlain (.array elements)
  | object {members : List (String × Json)} : (∀ m ∈ members, IsPlain m.2) →
      members.Pairwise (fun m k => m.1 < k.1) → IsPlain (.object members)

lemma IsPlain.rereads {json : Json} (h : json.IsPlain) : json.Rereads := by
  induction h with
  | null => exact .null
  | bool b => exact .bool b
  | int hn => exact .number (Number.isRead_int hn)
  | string s => exact .string s
  | array _ ih => exact .array ih
  | object _ _ ih => exact .object ih

lemma setMember_of_forall_lt {name : String} {sorted : List (String × Json)}
    (h : ∀ m ∈ sorted, m.1 < name) (value : Json) :
    setMember name value sorted = sorted ++ [(name, value)] := by
  induction sorted with
  | nil => rfl
  | cons m sorted ih =>
    have hlt := h m List.mem_cons_self
    rw [setMember, if_neg (String.lt_asymm hlt), if_neg (Ne.symm (String.ne_of_lt hlt)),
      ih fun k hk => h k (List.mem_cons_of_mem m hk)]
    rfl

lemma foldl_setMember {sorted members : List (String × Json)}
    (h : (sorted ++ members).Pairwise fun m k => m.1 < k.1) :
    members.foldl (fun sorted m => setMember m.1 m.2 sorted) sorted = sorted ++ members := by
  induction members generalizing sorted with
  | nil => simp
  | cons m members ih =>
    have hlt : ∀ k ∈ sorted, k.1 < m.1 := fun k hk =>
      (List.pairwise_append.mp h).2.2 k hk m List.mem_cons_self
    rw [List.foldl_cons, setMember_of_forall_lt hlt, ih (by simpa using h)]
    simp

lemma normalElements_of_forall {elements : List Json} (h : ∀ e ∈ elements, e.normal = e) :
    normalElements elements = elements := by
  induction elements with
  | nil => rfl
  | cons e elements ih =>
    rw [normalElements, h e List.mem_cons_self, ih fun k hk => h k (List.mem_cons_of_mem e hk)]

lemma normalMembers_of_forall {members : List (String × Json)}
    (h : ∀ m ∈ members, m.2.normal = m.2) : normalMembers members = members := by
  induction members with
  | nil => rfl
  | cons m members ih =>
    rw [normalMembers, h m List.mem_cons_self, ih fun k hk => h k (List.mem_cons_of_mem m hk)]

theorem IsPlain.normal_eq {json : Json} (h : json.IsPlain) : json.normal = json := by
  induction h with
  | array _ ih => rw [normal, normalElements_of_forall ih]
  | object _ hsorted ih =>
    rw [normal, normalMembers_of_forall ih, ofMembers]
    exact congrArg Json.object (foldl_setMember hsorted)
  | _ => rfl

end ReadLater.Json
