import Mathlib.Data.List.Nodup
import ReadLater.Json.Record
import ReadLater.Json.Writer
import ReadLater.Proofs.JsonRows

/-!
# Records on several lines

What the typed readers make of a value that is written on several lines. A record is read back if
each of its members is, and if no two members have one name.
-/

namespace ReadLater.Json

variable {α β : Type}

lemma exists_writeIndented_cons (json : Json) (level : Nat) :
    ∃ c cs, json.writeIndented level = c :: cs ∧ StartsValue c := by
  cases json with
  | array elements => cases elements <;> exact ⟨'[', _, rfl, .inl (by decide)⟩
  | object members => cases members <;> exact ⟨'\x7b', _, rfl, .inl (by decide)⟩
  | _ => exact exists_writeScalar_cons _

/-- The gap before the bracket that ends a list or an object. -/
def lastGap (level : Nat) (items : List α) : List Char :=
  if items.isEmpty then [] else newline level

lemma writeMoreElements_eq (level : Nat) (elements : List Json) :
    writeMoreElements level elements =
      (elements.map (writeIndented level)).flatMap fun u => ',' :: newline level ++ u := by
  induction elements with
  | nil => rfl
  | cons element rest ih =>
    rw [writeMoreElements, ih]
    rfl

lemma writeIndented_array (level : Nat) (elements : List Json) :
    (array elements).writeIndented level =
      '[' :: (row (newline (level + 1)) (elements.map (writeIndented (level + 1))) ++
        (lastGap level elements ++ [']'])) := by
  cases elements with
  | nil => rfl
  | cons element rest =>
    rw [writeIndented, writeMoreElements_eq]
    simp [row, lastGap]

/-- A name and the text after it, which starts with a colon and a blank. -/
def indentedMember (level : Nat) (m : String × Json) : String × List Char :=
  (m.1, ':' :: ' ' :: m.2.writeIndented level)

lemma writeMoreMembers_eq (level : Nat) (members : List (String × Json)) :
    writeMoreMembers level members =
      ((members.map (indentedMember level)).map Reader.memberText).flatMap
        fun u => ',' :: newline level ++ u := by
  induction members with
  | nil => rfl
  | cons m rest ih =>
    obtain ⟨name, value⟩ := m
    rw [writeMoreMembers, ih]
    simp [Reader.memberText, indentedMember]

lemma writeIndented_object (level : Nat) (members : List (String × Json)) :
    (object members).writeIndented level =
      '\x7b' :: (row (newline (level + 1))
        ((members.map (indentedMember (level + 1))).map Reader.memberText) ++
          (lastGap level members ++ ['\x7d'])) := by
  cases members with
  | nil => rfl
  | cons m rest =>
    obtain ⟨name, value⟩ := m
    rw [writeIndented, writeMoreMembers_eq]
    simp [row, lastGap, Reader.memberText, indentedMember]

namespace Reader

lemma blanks_newline (level : Nat) : Blanks (newline level) := by
  intro c hc
  rcases List.mem_cons.mp hc with rfl | hblank
  · rfl
  · rw [List.eq_of_mem_replicate hblank]
    rfl

lemma blanks_lastGap (level : Nat) (items : List α) : Blanks (lastGap level items) := by
  unfold lastGap
  split_ifs
  · exact blanks_nil
  · exact blanks_newline level

/-- The reader gives `a` for the value, however deep it is indented. -/
structure Inverts (reader : Reader α) (json : Json) (a : α) : Prop where
  takes : ∀ (level : Nat) {blanks rest : List Char}, Blanks blanks → EndsNumber rest →
    Takes reader (blanks ++ (json.writeIndented level ++ rest)) a rest

lemma Inverts.map {reader : Reader α} {json : Json} {a : α} (h : Inverts reader json a)
    (f : α → β) : Inverts (f <$> reader) json (f a) :=
  ⟨fun level _ _ hblanks hrest => (h.takes level hblanks hrest).map f⟩

lemma Inverts.takesText {reader : Reader α} {json : Json} {a : α} (h : Inverts reader json a)
    (level : Nat) : TakesText reader (json.writeIndented level) a :=
  ⟨json.exists_writeIndented_cons level, fun hrest => h.takes level blanks_nil hrest⟩

lemma inverts_text (expected s : String) : Inverts (text expected) (.string s) s := by
  refine ⟨fun level blanks rest hblanks _ => ?_⟩
  change Takes _ (blanks ++ (writeString s ++ rest)) s rest
  rw [writeString_append]
  refine (takes_next hblanks rfl _).bind ?_
  simp only [if_true]
  exact (takes_advance '"' _).bind (takes_stringRest s rest)

lemma inverts_int64 (n : Int64) : Inverts int64 (.int n.toInt) n := by
  refine ⟨fun level blanks rest hblanks hrest => ?_⟩
  have hsigned : IsInt64 n.toInt := by
    have hmax : Int64.maxValue.toInt = 9223372036854775807 := rfl
    have hsize : (UInt64.size : Int) = 18446744073709551616 := rfl
    have hhigh := n.toInt_le
    exact ⟨n.minValue_le_toInt, by omega⟩
  have hbounds : Text.int64? n.toInt = some n := by
    rw [Text.int64?, if_pos ⟨n.minValue_le_toInt, n.toInt_le⟩, Int64.ofInt_toInt]
  have hwritable := Numeral.isWritable_ofInt n.toInt
  have hnumber := takes_number hwritable (Numeral.number?_ofInt hsigned) hrest
  obtain ⟨c, hc, hnext⟩ := takes_next_written hwritable hblanks rest
  rw [Numeral.written_ofInt] at hnumber hnext
  refine hnext.bind ?_
  simp only [Option.any_some, hc, if_true]
  refine hnumber.bind ?_
  simp only [hbounds]
  exact takes_pure n rest

/-- The double is read back from what is written for it. -/
def KeepsFloat (x : Float) : Prop :=
  float.whole (Json.float x).compact = .ok x

lemma KeepsFloat.isFinite {x : Float} (h : KeepsFloat x) : Double.isFinite x = true := by
  by_contra hfinite
  have hnull : (Json.float x).compact = "null" := by
    change String.ofList (Number.float x).write = "null"
    rw [Number.write, if_neg hfinite]
  rw [KeepsFloat, hnull] at h
  cases h

lemma KeepsFloat.exists_numeral {x : Float} (h : KeepsFloat x) :
    ∃ n : Numeral, n.IsWritable ∧ n.written = (Number.float x).write ∧
      ∃ y, n.number? = some y ∧ y.toFloat = x := by
  obtain ⟨n, hn, hwritten⟩ := Numeral.exists_written_shortest x
  have hwrite : n.written = (Number.float x).write := by
    rw [hwritten, Number.write, if_pos h.isFinite]
  refine ⟨n, hn, hwrite, ?_⟩
  obtain ⟨c, hc, hnext⟩ := takes_next_written hn blanks_nil []
  have hnumeral := takes_numeral hn endsNumber_nil .endOfValue
  rw [List.nil_append, List.append_nil] at hnext
  rw [List.append_nil] at hnumeral
  have hsource : Source.ofText (Json.float x).compact =
      ⟨n.written, 0, 2 * n.written.length + 2⟩ := by
    rw [hwrite, Source.ofText, compact, String.toList_ofList, String.length_ofList]
    rfl
  obtain ⟨source, hrun⟩ := exists_run_of_whole h
  rw [hsource] at hrun
  obtain ⟨offset, hafter⟩ := hnext.run_of_bind (by omega) hrun
  simp only [Option.any_some, hc, if_true] at hafter
  obtain ⟨y, rest, hy, hx⟩ := exists_run_of_bind hafter
  cases hx
  exact ⟨y, number?_of_run hnumeral (by omega) hy, rfl⟩

lemma inverts_float {x : Float} (h : KeepsFloat x) : Inverts float (Json.float x) x := by
  refine ⟨fun level blanks rest hblanks hrest => ?_⟩
  obtain ⟨n, hn, hwritten, y, hy, rfl⟩ := h.exists_numeral
  obtain ⟨c, hc, hnext⟩ := takes_next_written hn hblanks rest
  have hnumber := (takes_number hn hy hrest).map Number.toFloat
  rw [hwritten] at hnumber hnext
  refine hnext.bind ?_
  simp only [Option.any_some, hc, if_true]
  exact hnumber

lemma inverts_list {element : Reader α} {js : List Json} {as : List α}
    (h : List.Forall₂ (Inverts element) js as) : Inverts (list element) (.array js) as := by
  refine ⟨fun level blanks rest hblanks _ => ?_⟩
  have htexts : List.Forall₂ (TakesText element) (js.map (writeIndented (level + 1))) as := by
    rw [List.forall₂_map_left_iff]
    exact h.imp fun _ _ hone => hone.takesText (level + 1)
  have helements := takes_elements (blanks_newline (level + 1)) (blanks_lastGap level js) htexts
    rest
  rw [writeIndented_array]
  simp only [List.cons_append, List.append_assoc]
  refine (takes_next (c := '[') hblanks rfl _).bind ?_
  simp only [if_true]
  exact (takes_advance '[' _).bind helements

/-- What is written for the value does not look like a null. -/
def NotNull (json : Json) : Prop :=
  ∀ level, (json.writeIndented level).head? ≠ some 'n'

lemma inverts_orNull {reader : Reader α} {toJson : α → Json} {o : Option α}
    (h : ∀ a ∈ o, Inverts reader (toJson a) a ∧ NotNull (toJson a)) :
    Inverts (optional reader) (Json.orNull toJson o) o := by
  refine ⟨fun level blanks rest hblanks hrest => ?_⟩
  cases o with
  | none =>
    refine (takes_next hblanks (c := 'n') rfl _).bind ?_
    simp only [if_true]
    exact (takes_word ['n', 'u', 'l', 'l'] rest).bind (takes_pure none rest)
  | some a =>
    obtain ⟨hread, hnull⟩ := h a rfl
    obtain ⟨c, cs, hcons, hc⟩ := (toJson a).exists_writeIndented_cons level
    have hvalue := (hread.takes level blanks_nil hrest).map some
    have hne : c ≠ 'n' := by
      rintro rfl
      exact hnull level (by rw [hcons, List.head?_cons])
    change Takes _ (blanks ++ ((toJson a).writeIndented level ++ rest)) _ _
    rw [hcons] at hvalue ⊢
    refine (takes_next hblanks hc.plain.1 _).bind ?_
    simp only [Option.some.injEq, hne, if_false]
    exact hvalue

lemma inverts_oneOf {all : List α} {name : α → String} {a : α}
    (h : (all.find? fun b => name b == name a) = some a) :
    Inverts (oneOf all name) (.string (name a)) a := by
  refine ⟨fun level blanks rest hblanks hrest => ?_⟩
  refine (takes_next hblanks (c := '"') rfl _).bind ?_
  simp only [if_true]
  refine ((inverts_text "variant identifier" (name a)).takes level blanks_nil hrest).bind ?_
  simp only [h]
  exact takes_pure a rest

end Reader

namespace Record

open Reader (Inverts TakesMembers Takes)

variable {α : Type} {r : Record α}

/-- The values are those of the members one after another, and lead from one record to another. -/
inductive Fills : List (Member α) → List (String × Json) → α → α → Prop
  | nil {a} : Fills [] [] a a
  | cons {m ms json js a b c} :
      Inverts (m.read a) json b → Fills ms js b c → Fills (m :: ms) ((m.name, json) :: js) a c

lemma find?_member (hnames : (r.members.map Member.name).Nodup) {m : Member α}
    (hm : m ∈ r.members) : (r.members.find? fun k => k.name == m.name) = some m := by
  cases hfind : r.members.find? fun k => k.name == m.name with
  | none => exact absurd (beq_self_eq_true m.name) (List.find?_eq_none.mp hfind m hm)
  | some k =>
    have hname : (k.name == m.name) = true := List.find?_some
      (p := fun k : Member α => k.name == m.name) hfind
    rw [List.inj_on_of_nodup_map hnames (List.mem_of_find?_eq_some hfind) hm (eq_of_beq hname)]

lemma takes_readMember {m : Member α} (hfind : (r.members.find? fun k => k.name == m.name) = some m)
    {a b : α} {given : List String} (hnew : m.name ∉ given) {json : Json}
    (h : Inverts (m.read a) json b) {level : Nat} {rest : List Char} (hrest : EndsNumber rest) :
    Takes (r.readMember ⟨a, given⟩ m.name) ((indentedMember level (m.name, json)).2 ++ rest)
      ⟨b, m.name :: given⟩ rest := by
  have hblank : Reader.Blanks [' '] := by
    rintro c hc
    rw [List.mem_singleton.mp hc]
    rfl
  have hgiven : given.contains m.name = false := by simpa using hnew
  unfold readMember
  simp only [hfind, hgiven, Bool.false_eq_true, if_false]
  refine (Reader.takes_colon _).bind ?_
  exact (h.takes level hblank hrest).map fun b => (⟨b, m.name :: given⟩ : Draft α)

lemma Fills.takesMembers (hnames : (r.members.map Member.name).Nodup) {ms : List (Member α)}
    {js : List (String × Json)} {a b : α} (h : Fills ms js a b) (hms : ms ⊆ r.members)
    (level : Nat) (given : List String) (hnew : ((ms.map Member.name).reverse ++ given).Nodup) :
    TakesMembers r.readMember ⟨a, given⟩ (js.map (indentedMember level))
      ⟨b, (ms.map Member.name).reverse ++ given⟩ := by
  induction h generalizing given with
  | nil => exact .nil
  | @cons m ms json js a b c hread _ ih =>
    obtain ⟨hm, hms⟩ := List.cons_subset.mp hms
    have hgiven : ((m :: ms).map Member.name).reverse ++ given =
        (ms.map Member.name).reverse ++ m.name :: given := by simp
    rw [hgiven] at hnew ⊢
    have hfresh : m.name ∉ given := (List.nodup_cons.mp hnew.of_append_right).1
    refine .cons (fun hrest => ?_) (ih hms _ hnew)
    exact takes_readMember (find?_member hnames hm) hfresh hread hrest

/-- A record whose members have different names is read back if each of its values is. -/
theorem inverts (hnames : (r.members.map Member.name).Nodup) {js : List (String × Json)} {a : α}
    (h : Fills r.members js r.blank a) : Inverts r.reader (.object js) a := by
  refine ⟨fun level blanks rest hblanks _ => ?_⟩
  have hmembers := h.takesMembers hnames (List.Subset.refl _) (level + 1) []
    (by simpa using hnames)
  have hmissing : (r.members.find? fun m =>
      m.required && !((r.members.map Member.name).reverse ++ []).contains m.name) = none := by
    refine List.find?_eq_none.mpr fun m hm => ?_
    simp [List.mem_map_of_mem hm]
  have hobject := Reader.takes_members (Reader.blanks_newline (level + 1))
    (Reader.blanks_lastGap level js) hmembers rest
  rw [writeIndented_object]
  simp only [List.cons_append, List.append_assoc]
  refine (Reader.takes_next hblanks rfl _).bind ((Reader.takes_advance '\x7b' _).bind ?_)
  refine hobject.bind ?_
  simp only [hmissing]
  exact Reader.takes_pure a rest

end Record
end ReadLater.Json
