import Mathlib.Data.List.Perm.Basic
import ReadLater.Proofs.JsonValues
import ReadLater.Query.Json

/-!
# Query trees are read back

A value describes a query tree if each of its objects has the members that its kind of node knows,
once each. Other members may stand beside them, and a member may be missing where its default is
meant. A value that describes a tree is decoded as the tree, and what is written for a tree
describes it.
-/

namespace ReadLater

namespace Json

/-- Of the members with one of the names, the object has the known ones in any order. -/
def Extends (names : List String) (known members : List (String × Json)) : Prop :=
  (members.filter fun m => names.contains m.1).Perm known

section Extends

variable {names : List String} {known members : List (String × Json)}

lemma extends_self (h : ∀ m ∈ known, m.1 ∈ names) : Extends names known known := by
  rw [Extends, List.filter_eq_self.mpr fun m hm => by simpa using h m hm]

lemma Extends.mem (h : Extends names known members) {m : String × Json} (hm : m ∈ known) :
    m ∈ members :=
  List.mem_of_mem_filter (h.mem_iff.mpr hm)

lemma Extends.filter_name (h : Extends names known members) {name : String} (hname : name ∈ names) :
    (members.filter fun m => m.1 == name).Perm (known.filter fun m => m.1 == name) := by
  have hboth := List.Perm.filter (fun m => m.1 == name) h
  rw [List.filter_filter] at hboth
  have hsame : members.filter (fun m => m.1 == name && names.contains m.1) =
      members.filter fun m => m.1 == name := by
    refine List.filter_congr fun m _ => ?_
    by_cases hm : m.1 = name <;> simp [hm, hname]
  rwa [hsame] at hboth

/-- What the members with one name stand for. -/
def sole? : List (String × Json) → Option (Option Json)
  | [] => some none
  | [m] => some (some m.2)
  | _ => none

lemma sole?_perm {ms ks : List (String × Json)} (h : ms.Perm ks) : sole? ms = sole? ks := by
  induction h with
  | nil => rfl
  | @cons m ms ks hrest _ =>
    cases ms with
    | nil => rw [List.nil_perm.mp hrest]
    | cons =>
      cases ks with
      | nil => cases hrest.length_eq
      | cons => rfl
  | swap => rfl
  | trans _ _ ih ih' => exact ih.trans ih'

lemma pick?_named (names : List String) (members : List (String × Json)) :
    (Members.named members).pick? names =
      names.mapM fun name => sole? (members.filter fun m => m.1 == name) := rfl

/-- Members that are not known and the order do not matter. -/
lemma Extends.pick?_eq (h : Extends names known members) :
    (Members.named members).pick? names = (Members.named known).pick? names := by
  have hall : ∀ ns ⊆ names, ns.mapM (fun name => sole? (members.filter fun m => m.1 == name)) =
      ns.mapM fun name => sole? (known.filter fun m => m.1 == name) := by
    intro ns hns
    induction ns with
    | nil => rfl
    | cons name ns ih =>
      obtain ⟨hname, hns⟩ := List.cons_subset.mp hns
      rw [List.mapM_cons, List.mapM_cons, ih hns, sole?_perm (h.filter_name hname)]
  rw [pick?_named, pick?_named]
  exact hall names (List.Subset.refl names)

lemma untag?_object {kinds : List String} {kind : String} (hkind : kind ∈ kinds) (nested : Bool)
    (hnames : "type" ∉ names) (hknown : ∀ m ∈ known, m.1 ≠ "type")
    (h : Extends ("type" :: names) (("type", .string kind) :: known) members) :
    ∃ rest, untag? kinds nested (.object members) = some (kind, .named rest) ∧
      Extends names known rest := by
  have htypes := h.filter_name List.mem_cons_self
  have hnone : known.filter (fun m => m.1 == "type") = [] :=
    List.filter_eq_nil_iff.mpr fun m hm => by simpa using hknown m hm
  rw [List.filter_cons_of_pos (by rfl), hnone, List.perm_singleton] at htypes
  refine ⟨members.filter (fun m => !(m.1 == "type")), ?_, ?_⟩
  · have hkinds : kindOf? kinds nested (.string kind) = some kind := by simp [kindOf?, hkind]
    rw [untag?, List.partition_eq_filter_filter, htypes]
    change Option.map _ (kindOf? kinds nested (.string kind)) = _
    rw [hkinds]
    rfl
  · have hothers := List.Perm.filter (fun m => !(m.1 == "type")) h
    have hkept : (("type", Json.string kind) :: known).filter (fun m => !(m.1 == "type")) =
        known := by
      rw [List.filter_cons_of_neg (by simp)]
      exact List.filter_eq_self.mpr fun m hm => by simpa using hknown m hm
    rw [hkept, List.filter_filter] at hothers
    rw [Extends, List.filter_filter]
    refine (List.Perm.of_eq (List.filter_congr fun m _ => ?_)).trans hothers
    by_cases hm : m.1 = "type" <;> simp [hm, hnames, Bool.and_comm]

end Extends

end Json

namespace Query

open Json (Extends fields? untag? Members)

/-- The member, which may be left out if it is the default. -/
inductive Optionally (m : String × Json) (isDefault : Prop) : List (String × Json) → Prop
  | given : Optionally m isDefault [m]
  | left_out : isDefault → Optionally m isDefault []

/-- The value describes the field. -/
inductive Field.Describes : Json → Field → Prop
  | freeText {ms} : Extends ["type"] [("type", .string "ImplicitField")] ms →
      Describes (.object ms) .freeText
  | named {ms name quoted flag} : Optionally ("quoted", .bool quoted) (quoted = false) flag →
      Extends ["type", "name", "quoted"]
        (("type", .string "Field") :: ("name", .string name) :: flag) ms →
      Describes (.object ms) (.named name quoted)

/-- The value describes what a tag asks for; a literal is put in normal form. -/
inductive Operand.Describes : Json → Operand → Prop
  | empty {ms} : Extends ["type"] [("type", .string "EmptyExpression")] ms →
      Describes (.object ms) .empty
  | literal {ms value quoted flag} : Optionally ("quoted", .bool quoted) (quoted = false) flag →
      Extends ["type", "value", "quoted"]
        (("type", .string "LiteralExpression") :: ("value", value) :: flag) ms →
      Describes (.object ms) (.literal value.normal quoted)

/-- The value describes the tree. -/
inductive Describes : Json → Query → Prop
  | empty {ms} : Extends ["type"] [("type", .string "EmptyExpression")] ms →
      Describes (.object ms) .empty
  | tag {ms field operand f o} : Field.Describes field f → Operand.Describes operand o →
      Extends ["type", "field", "expression"]
        [("type", .string "Tag"), ("field", field), ("expression", operand)] ms →
      Describes (.object ms) (.tag ⟨f, o⟩)
  | logical {ms os left right connective l r} :
      Extends ["operator"] [("operator", .string (Connective.name connective))] os →
      Describes left l → Describes right r →
      Extends ["type", "operator", "left", "right"]
        [("type", .string "LogicalExpression"), ("operator", .object os), ("left", left),
          ("right", right)] ms →
      Describes (.object ms) (.logical connective l r)
  | negation {ms operand mark flag q} :
      Optionally ("operator", .string (NegationMark.name mark)) (mark = .word) flag →
      Describes operand q →
      Extends ["type", "operator", "operand"]
        (("type", .string "UnaryOperator") :: (flag ++ [("operand", operand)])) ms →
      Describes (.object ms) (.negation mark q)
  | group {ms inner q} : Describes inner q →
      Extends ["type", "expression"]
        [("type", .string "ParenthesizedExpression"), ("expression", inner)] ms →
      Describes (.object ms) (.group q)

lemma connective_of_extends {os : List (String × Json)} {c : Connective}
    (h : Extends ["operator"] [("operator", .string c.name)] os) :
    Connective.ofJson? (.object os) = some c := by
  unfold Connective.ofJson?
  rw [fields?, h.pick?_eq]
  cases c <;> rfl

lemma Optionally.not_type {m : String × Json} {isDefault : Prop} {flag : List (String × Json)}
    (h : Optionally m isDefault flag) (hm : m.1 ≠ "type") : ∀ k ∈ flag, k.1 ≠ "type" := by
  cases h with
  | given => simpa using hm
  | left_out _ => simp

lemma exists_mark {mark : NegationMark} {flag : List (String × Json)}
    (h : Optionally ("operator", .string mark.name) (mark = .word) flag) (operand : Json) :
    ∃ given, (Members.named (flag ++ [("operand", operand)])).pick? ["operator", "operand"] =
      some [given, some operand] ∧ Json.given? NegationMark.ofJson? .word given = some mark := by
  cases h with
  | given => exact ⟨some (.string mark.name), rfl, by cases mark <;> rfl⟩
  | left_out hdefault => exact ⟨none, rfl, by rw [hdefault]; rfl⟩

lemma Field.Describes.ofJson?_eq {json : Json} {f : Field} (h : Describes json f) :
    ofJson? json = some f := by
  cases h with
  | freeText h =>
    obtain ⟨rest, huntag, -⟩ := Json.untag?_object
      (show _ ∈ ["ImplicitField", "Field"] by decide) true (by decide) (by simp) h
    rw [ofJson?, huntag]
    rfl
  | named hflag h =>
    obtain ⟨rest, huntag, hrest⟩ := Json.untag?_object
      (show _ ∈ ["ImplicitField", "Field"] by decide) true (by decide)
      (by simpa using hflag.not_type (show "quoted" ≠ "type" by decide)) h
    rw [ofJson?, huntag]
    simp only [Option.bind_eq_bind, Option.bind_some, hrest.pick?_eq]
    cases hflag with
    | given => rfl
    | left_out hdefault =>
      rw [hdefault]
      rfl

lemma Operand.Describes.ofJson?_eq {json : Json} {o : Operand} (h : Describes json o) :
    ofJson? json = some o := by
  cases h with
  | empty h =>
    obtain ⟨rest, huntag, -⟩ := Json.untag?_object
      (show _ ∈ ["LiteralExpression", "EmptyExpression"] by decide) true (by decide) (by simp) h
    rw [ofJson?, huntag]
    rfl
  | literal hflag h =>
    obtain ⟨rest, huntag, hrest⟩ := Json.untag?_object
      (show _ ∈ ["LiteralExpression", "EmptyExpression"] by decide) true (by decide)
      (by simpa using hflag.not_type (show "quoted" ≠ "type" by decide)) h
    rw [ofJson?, huntag]
    simp only [Option.bind_eq_bind, Option.bind_some, hrest.pick?_eq]
    cases hflag with
    | given => rfl
    | left_out hdefault =>
      rw [hdefault]
      rfl

lemma exists_untag {kind : String} (hkind : kind ∈ nodeKinds) {names : List String}
    (hnames : "type" ∉ names) {known ms : List (String × Json)} (hknown : ∀ m ∈ known, m.1 ≠ "type")
    (h : Extends ("type" :: names) (("type", .string kind) :: known) ms) {depth : Nat}
    (hdepth : (Json.object ms).levels ≤ depth) (nested : Bool) :
    ∃ deeper rest, depth = deeper + 1 ∧
      untag? nodeKinds nested (.object ms) = some (kind, .named rest) ∧ Extends names known rest ∧
      ∀ m ∈ known, m.2.levels ≤ deeper := by
  obtain ⟨deeper, rfl⟩ := Nat.exists_eq_add_one_of_ne_zero (Nat.ne_zero_of_lt hdepth)
  obtain ⟨rest, huntag, hrest⟩ := Json.untag?_object hkind nested hnames hknown h
  refine ⟨deeper, rest, rfl, huntag, hrest, fun m hm => ?_⟩
  have hmem := h.mem (List.mem_cons_of_mem _ hm)
  exact Nat.le_trans (Json.levels_le_of_mem_members hmem) (Nat.le_of_succ_le_succ hdepth)

/-- A value that describes a tree is decoded as the tree, if it has no more levels than may be
decoded. -/
theorem ofJson?_of_describes {json : Json} {q : Query} (h : Describes json q) {depth : Nat}
    (hdepth : json.levels ≤ depth) (nested : Bool) : ofJson? depth nested json = some q := by
  induction h generalizing depth nested with
  | empty h =>
    obtain ⟨deeper, rest, rfl, huntag, -, -⟩ :=
      exists_untag (by decide) (by decide) (by simp) h hdepth nested
    rw [ofJson?, huntag]
    rfl
  | @tag _ field operand _ _ hfield hoperand h =>
    obtain ⟨deeper, rest, rfl, huntag, hrest, -⟩ :=
      exists_untag (by decide) (by decide) (by simp) h hdepth nested
    rw [ofJson?, huntag]
    change Option.bind ((Members.named rest).pick? ["field", "expression"]) _ = _
    rw [hrest.pick?_eq]
    change Option.bind (Field.ofJson? field) (fun f => Option.bind (Operand.ofJson? operand) _) = _
    rw [hfield.ofJson?_eq, hoperand.ofJson?_eq]
    rfl
  | @logical _ os left right _ _ _ hconnective _ _ h ihleft ihright =>
    obtain ⟨deeper, rest, rfl, huntag, hrest, hlevels⟩ :=
      exists_untag (by decide) (by decide) (by simp) h hdepth nested
    have hleft := ihleft (hlevels ("left", left) (by simp)) true
    have hright := ihright (hlevels ("right", right) (by simp)) true
    rw [ofJson?, huntag]
    change Option.bind ((Members.named rest).pick? ["operator", "left", "right"]) _ = _
    rw [hrest.pick?_eq]
    change Option.bind (Connective.ofJson? (.object os)) (fun c =>
      Option.bind (ofJson? deeper true left) fun l => Option.bind (ofJson? deeper true right) _) = _
    rw [connective_of_extends hconnective, hleft, hright]
    rfl
  | @negation _ operand mark flag _ hflag _ h ih =>
    have hknown : ∀ m ∈ flag ++ [("operand", operand)], m.1 ≠ "type" := by
      simpa [or_imp, forall_and] using hflag.not_type (show "operator" ≠ "type" by decide)
    obtain ⟨deeper, rest, rfl, huntag, hrest, hlevels⟩ :=
      exists_untag (by decide) (by decide) hknown h hdepth nested
    have hoperand := ih (hlevels ("operand", operand) (by simp)) true
    obtain ⟨given, hpick, hmark⟩ := exists_mark hflag operand
    rw [ofJson?, huntag]
    change Option.bind ((Members.named rest).pick? ["operator", "operand"]) _ = _
    rw [hrest.pick?_eq, hpick]
    change Option.bind (Json.given? NegationMark.ofJson? .word given) (fun m =>
      Option.bind (ofJson? deeper true operand) _) = _
    rw [hmark, hoperand]
    rfl
  | @group _ inner _ _ h ih =>
    obtain ⟨deeper, rest, rfl, huntag, hrest, hlevels⟩ :=
      exists_untag (by decide) (by decide) (by simp) h hdepth nested
    have hinner := ih (hlevels ("expression", inner) (by simp)) true
    rw [ofJson?, huntag]
    change Option.bind ((Members.named rest).pick? ["expression"]) _ = _
    rw [hrest.pick?_eq]
    change Option.bind (ofJson? deeper true inner) _ = _
    rw [hinner]
    rfl

/-! ## What is written -/

/-- A literal is a plain value. -/
inductive Operand.IsPlain : Operand → Prop
  | empty : IsPlain .empty
  | literal {value : Json} (quoted : Bool) : value.IsPlain → IsPlain (.literal value quoted)

lemma Field.describes_toJson (f : Field) : Describes f.toJson f := by
  cases f with
  | freeText => exact .freeText (Json.extends_self (by simp))
  | named name quoted => exact .named .given (Json.extends_self (by simp))

lemma Operand.IsPlain.describes_toJson {o : Operand} (h : o.IsPlain) : Describes o.toJson o := by
  cases h with
  | empty => exact .empty (Json.extends_self (by simp))
  | @literal value quoted hvalue =>
    have hdescribes : Describes (toJson (.literal value quoted)) (.literal value.normal quoted) :=
      .literal .given (Json.extends_self (by simp))
    rwa [hvalue.normal_eq] at hdescribes

theorem describes_toJson {q : Query} (h : ∀ t ∈ q.tags, t.operand.IsPlain) :
    Describes q.toJson q := by
  induction q with
  | empty => exact .empty (Json.extends_self (by simp))
  | tag t =>
    have hoperand := (h t List.mem_cons_self).describes_toJson
    exact .tag t.field.describes_toJson hoperand (Json.extends_self (by simp))
  | logical connective left right ihleft ihright =>
    have hleft := ihleft fun t ht => h t (List.mem_append_left _ ht)
    have hright := ihright fun t ht => h t (List.mem_append_right _ ht)
    exact .logical (Json.extends_self (by simp)) hleft hright (Json.extends_self (by simp))
  | negation mark operand ih => exact .negation .given (ih h) (Json.extends_self (by simp))
  | group inner ih => exact .group (ih h) (Json.extends_self (by simp))

lemma Field.rereads_toJson (f : Field) : f.toJson.Rereads := by
  cases f <;> simp [toJson, tagged]

lemma Operand.IsPlain.rereads_toJson {o : Operand} (h : o.IsPlain) : o.toJson.Rereads := by
  cases h with
  | empty => simp [toJson, tagged]
  | literal quoted hvalue => simp [toJson, tagged, hvalue.rereads]

lemma rereads_toJson {q : Query} (h : ∀ t ∈ q.tags, t.operand.IsPlain) : q.toJson.Rereads := by
  induction q with
  | empty => simp [toJson, tagged]
  | tag t =>
    have hoperand := (h t List.mem_cons_self).rereads_toJson
    simp [toJson, tagged, t.field.rereads_toJson, hoperand]
  | logical connective left right ihleft ihright =>
    have hleft := ihleft fun t ht => h t (List.mem_append_left _ ht)
    have hright := ihright fun t ht => h t (List.mem_append_right _ ht)
    simp [toJson, tagged, hleft, hright]
  | negation mark operand ih => simp [toJson, tagged, ih h]
  | group inner ih => simp [toJson, tagged, ih h]

/-- A tree is read back from what is written for it, and from every text of a value that describes
it. -/
theorem ofJsonText?_written {q : Query} (h : ∀ t ∈ q.tags, t.operand.IsPlain) :
    (q.toJson.levels ≤ Json.nestingLimit → ofJsonText? q.toJson.compact = some q) ∧
      ∀ json, Describes json q → json.levels ≤ Json.nestingLimit →
        (json.Rereads → ofJsonText? json.compact = some q) ∧
        ∀ text, Json.read text = .ok json → ofJsonText? text = some q := by
  have hread : ∀ json, Describes json q → json.levels ≤ Json.nestingLimit →
      ∀ text, Json.read text = .ok json → ofJsonText? text = some q := by
    intro json hjson hlevels text htext
    rw [ofJsonText?, htext]
    exact ofJson?_of_describes hjson (Nat.le_succ_of_le hlevels) false
  refine ⟨fun hlevels => ?_,
    fun json hjson hlevels => ⟨fun hrereads => ?_, hread json hjson hlevels⟩⟩
  · exact hread _ (describes_toJson h) hlevels _ (Json.read_compact (rereads_toJson h) hlevels)
  · exact hread json hjson hlevels _ (Json.read_compact hrereads hlevels)

/-- Escapes and a small number in a literal; and a value with other members and without defaults. -/
theorem ofJsonText?_written_with_locations :
    let numbers : Json := .array [.null, .bool true, .number (.int (-9223372036854775808))]
    let value : Json := .object [("a", numbers), ("b\"\\\n", .string "\x01")]
    let q : Query := .logical .and (.group (.tag ⟨.named "in" false, .literal value true⟩))
      (.negation .word (.tag ⟨.freeText, .empty⟩))
    let location : String × Json := ("location", .array [.number (.int 0), .null])
    let left : Json := .object [("type", .string "ParenthesizedExpression"), ("expression",
      .object [("type", .string "Tag"),
        ("field", .object [("type", .string "Field"), ("name", .string "in"), location]),
        ("expression", .object [("type", .string "LiteralExpression"), ("value", value),
          ("quoted", .bool true), location])])]
    let right : Json := .object [("type", .string "UnaryOperator"), location, ("operand",
      .object [("type", .string "Tag"), ("operator", .null),
        ("field", .object [location, ("type", .string "ImplicitField")]),
        ("expression", .object [("type", .string "EmptyExpression"), location])])]
    let json : Json := .object [location, ("type", .string "LogicalExpression"),
      ("operator", .object [("type", .null), ("operator", .string "AND")]), ("left", left),
      ("right", right)]
    (∀ t ∈ q.tags, t.operand.IsPlain) ∧ Describes json q ∧
      ofJsonText? q.toJson.compact = some q ∧ ofJsonText? json.compact = some q := by
  intro numbers value q location left right json
  have hnumber : Json.IsInt64 (-9223372036854775808) := by decide
  have hvalue : value.IsPlain := by
    have hnumbers : numbers.IsPlain :=
      .array (by simpa using ⟨Json.IsPlain.null, Json.IsPlain.bool true, Json.IsPlain.int hnumber⟩)
    have hordered : "a" < "b\"\\\n" := by decide
    exact .object (by simpa using ⟨hnumbers, Json.IsPlain.string "\x01"⟩)
      (List.pairwise_pair.mpr hordered)
  have hplain : ∀ t ∈ q.tags, t.operand.IsPlain := by
    simpa [q, tags] using ⟨Operand.IsPlain.literal true hvalue, Operand.IsPlain.empty⟩
  have hliteral : Operand.Describes (.object [("type", .string "LiteralExpression"),
      ("value", value), ("quoted", .bool true), location]) (.literal value.normal true) :=
    .literal .given (.refl _)
  rw [hvalue.normal_eq] at hliteral
  have hleft : Describes left (.group (.tag ⟨.named "in" false, .literal value true⟩)) := by
    refine .group ?_ (.refl _)
    refine .tag ?_ hliteral (.refl _)
    exact .named (.left_out rfl) (.refl _)
  have hright : Describes right (.negation .word (.tag ⟨.freeText, .empty⟩)) := by
    refine .negation (.left_out rfl) ?_ (.refl _)
    refine .tag ?_ ?_ (.refl _)
    · exact .freeText (.refl _)
    · exact .empty (.refl _)
  have hjson : Describes json q := by
    refine .logical ?_ hleft hright (.refl _)
    exact .refl _
  have hrereads : json.Rereads := by
    have hzero : (Json.Number.int 0).IsRead := Json.Number.isRead_int (by decide)
    simp [json, left, right, location, hvalue.rereads, hzero]
  obtain ⟨hwritten, hdescribed⟩ := ofJsonText?_written hplain
  exact ⟨hplain, hjson, hwritten (by decide), (hdescribed json hjson (by decide)).1 hrereads⟩

end Query

end ReadLater
