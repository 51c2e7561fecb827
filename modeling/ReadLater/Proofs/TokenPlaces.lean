import ReadLater.Proofs.WrittenQueries
import ReadLater.Text.Bytes

/-!
# Places of tokens

The tokens of a text lie in it one after the other, parted by blanks: each is spelled at its offset,
which counts bytes. Where a text has none, its last quote is open.
-/

lemma Except.map_eq_ok_iff {ε α β : Type} {f : α → β} {x : Except ε α} {b : β} :
    x.map f = .ok b ↔ ∃ a, x = .ok a ∧ f a = b := by
  cases x <;> simp [Except.map]

lemma Except.map_eq_error_iff {ε α β : Type} {f : α → β} {x : Except ε α} {e : ε} :
    x.map f = .error e ↔ x = .error e := by
  cases x <;> simp [Except.map]

namespace ReadLater

namespace Text

lemma byteLength_eq (cs : List Char) : byteLength cs = (String.ofList cs).utf8ByteSize := by
  suffices hfrom : ∀ n, cs.foldl (fun n c => n + c.utf8Size) n =
      n + (String.ofList cs).utf8ByteSize by
    rw [byteLength, hfrom 0, Nat.zero_add]
  induction cs with
  | nil => exact fun n => rfl
  | cons c cs ih =>
    have hcons : String.ofList (c :: cs) = String.singleton c ++ String.ofList cs := by
      rw [String.singleton_eq_ofList, ← String.ofList_append, List.singleton_append]
    intro n
    rw [List.foldl_cons, ih, hcons, String.utf8ByteSize_append, String.utf8ByteSize_singleton,
      Nat.add_assoc]

lemma byteLength_toList (s : String) : byteLength s.toList = s.utf8ByteSize := by
  rw [byteLength_eq, String.ofList_toList]

lemma byteLength_append (cs ds : List Char) :
    byteLength (cs ++ ds) = byteLength cs + byteLength ds := by
  rw [byteLength_eq, byteLength_eq, byteLength_eq, String.ofList_append, String.utf8ByteSize_append]

lemma byteLength_singleton (c : Char) : byteLength [c] = c.utf8Size :=
  Nat.zero_add _

end Text

namespace Query

/-- At the byte offset, and not within quotes, `rest` is what remains of the text. -/
def Remains (text : List Char) (offset : Nat) (rest : List Char) : Prop :=
  ∃ before, text = before ++ rest ∧ Text.byteLength before = offset ∧ Even (before.count '"')

lemma Remains.append {text rest : List Char} {offset : Nat} (h : Remains text offset rest)
    (more : List Char) : Remains (text ++ more) offset (rest ++ more) := by
  obtain ⟨before, rfl, hoffset, heven⟩ := h
  exact ⟨before, List.append_assoc .., hoffset, heven⟩

/-- Outside of quotes, every parenthesis of the text is closed or closes one within the text. -/
inductive Matched : List Char → Prop
  | nil : Matched []
  | other {c rest} : c ∉ ['"', '(', ')'] → Matched rest → Matched (c :: rest)
  | quoted {inner rest} : '"' ∉ inner → Matched rest → Matched ('"' :: (inner ++ '"' :: rest))
  | group {inner rest} : Matched inner → Matched rest → Matched ('(' :: (inner ++ ')' :: rest))

lemma Matched.append {cs ds : List Char} (hcs : Matched cs) (hds : Matched ds) :
    Matched (cs ++ ds) := by
  induction hcs with
  | nil => exact hds
  | other hc _ ih => exact .other hc ih
  | quoted hinner _ ih => simpa using Matched.quoted hinner ih
  | group hinner _ _ ih => simpa using Matched.group hinner ih

lemma Matched.even_count {cs : List Char} (h : Matched cs) : Even (cs.count '"') := by
  induction h with
  | nil => simp
  | @other c rest hc _ ih =>
    have hquote : c ≠ '"' := by
      rintro rfl
      exact hc List.mem_cons_self
    rwa [List.count_cons_of_ne hquote]
  | quoted hinner _ ih =>
    simpa [List.count_append, List.count_eq_zero.mpr hinner, Nat.even_add_one] using ih
  | group _ _ ihinner ihrest => simpa [List.count_append] using ihinner.add ihrest

/-- The number of parentheses open after the text, if none is closed that is not open. -/
def openAfter? (inQuotes : Bool) (depth : Nat) : List Char → Option Nat
  | [] => some depth
  | c :: rest =>
    if c = '"' then openAfter? (!inQuotes) depth rest
    else if inQuotes then openAfter? true depth rest
    else if c = '(' then openAfter? false (depth + 1) rest
    else if c = ')' then if depth = 0 then none else openAfter? false (depth - 1) rest
    else openAfter? false depth rest

lemma openAfter?_inQuotes {inner : List Char} (h : '"' ∉ inner) (depth : Nat) (rest : List Char) :
    openAfter? true depth (inner ++ '"' :: rest) = openAfter? false depth rest := by
  induction inner with
  | nil => rfl
  | cons c inner ih =>
    obtain ⟨hc, hinner⟩ := not_or.mp (mt List.mem_cons.mpr h)
    rw [List.cons_append, openAfter?, if_neg (Ne.symm hc), if_pos rfl, ih hinner]

lemma Matched.openAfter? {cs : List Char} (h : Matched cs) (depth : Nat) (rest : List Char) :
    openAfter? false depth (cs ++ rest) = openAfter? false depth rest := by
  induction h generalizing depth rest with
  | nil => rfl
  | other hc _ ih =>
    simp only [List.mem_cons, List.not_mem_nil, or_false, not_or] at hc
    simp [Query.openAfter?, hc, ih]
  | quoted hinner _ ih =>
    rw [List.cons_append, List.append_assoc, List.cons_append, Query.openAfter?, if_pos rfl,
      Bool.not_false, openAfter?_inQuotes hinner, ih]
  | group _ _ ihinner ihrest =>
    rw [List.cons_append, List.append_assoc, List.cons_append]
    simp [Query.openAfter?, ihinner, ihrest]

lemma Matched.not_matched_closing {cs : List Char} (h : Matched cs) (rest : List Char) :
    ¬Matched (cs ++ ')' :: rest) := by
  intro hwhole
  have hnone : Query.openAfter? false 0 (cs ++ ')' :: rest) = none := h.openAfter? 0 _
  have hsome := hwhole.openAfter? 0 []
  rw [List.append_nil, hnone] at hsome
  cases hsome

/-- The offsets of the parentheses that stay open in a text, innermost first. -/
inductive LeavesOpen : List Char → List Nat → Prop
  | matched {cs} : Matched cs → LeavesOpen cs []
  | opened {before inside offsets} : LeavesOpen before offsets → Matched inside →
      LeavesOpen (before ++ '(' :: inside) (Text.byteLength before :: offsets)

namespace LeavesOpen

variable {text : List Char} {offset : Nat} {offsets : List Nat}

lemma append (h : LeavesOpen text offsets) {cs : List Char} (hcs : Matched cs) :
    LeavesOpen (text ++ cs) offsets := by
  cases h with
  | matched hmatched => exact .matched (hmatched.append hcs)
  | opened hbefore hinside =>
    rw [List.append_assoc, List.cons_append]
    exact .opened hbefore (hinside.append hcs)

lemma opening (h : LeavesOpen text offsets) :
    LeavesOpen (text ++ ['(']) (Text.byteLength text :: offsets) :=
  .opened h .nil

lemma closing (h : LeavesOpen text (offset :: offsets)) : LeavesOpen (text ++ [')']) offsets := by
  cases h with
  | opened hbefore hinside =>
    rw [List.append_assoc]
    exact hbefore.append (.group hinside .nil)

lemma even_count (h : LeavesOpen text offsets) : Even (text.count '"') := by
  induction h with
  | matched hmatched => exact hmatched.even_count
  | opened _ hinside ih => simpa [List.count_append] using ih.add hinside.even_count

lemma exists_remains (h : LeavesOpen text (offset :: offsets)) :
    ∃ rest, Remains text offset ('(' :: rest) ∧
      ∀ inner outer, rest = inner ++ ')' :: outer → ¬Matched inner := by
  cases h with
  | @opened before inside _ hbefore hinside =>
    refine ⟨inside, ⟨before, rfl, rfl, hbefore.even_count⟩, ?_⟩
    rintro inner outer rfl hinner
    exact hinner.not_matched_closing outer hinside

end LeavesOpen

/-! ## Tokens -/

/-- What a token is written as. -/
def Token.spellings : Token → List (List Char)
  | .opening => [['(']]
  | .closing => [[')']]
  | .and => ["AND".toList]
  | .or => ["OR".toList]
  | .not => ["NOT".toList, ['-']]
  | .term text => [text]

/-- A character that parts words, and its tokens. -/
inductive Parts (offset : Nat) : Char → List PlacedToken → Prop
  | blank {c} : Text.isBlank c = true → Parts offset c []
  | opening : Parts offset '(' [⟨.opening, offset⟩]
  | closing : Parts offset ')' [⟨.closing, offset⟩]

lemma Parts.ne_quote {offset : Nat} {c : Char} {us : List PlacedToken} (h : Parts offset c us) :
    c ≠ '"' := by
  rintro rfl
  cases h with
  | blank hblank => exact absurd hblank (by decide)

/-- The character belongs to the word in which it stands; `quote` and `quote'` are the quotes that
are open before it and after it. -/
def Joins (offset : Nat) (c : Char) (quote quote' : Option Nat) : Prop :=
  c = '"' ∧ quote' = (if quote.isSome then none else some offset) ∨
    c ≠ '"' ∧ quote' = quote ∧ (quote.isSome = true ∨ isWordChar c = true)

lemma Joins.unbroken {offset : Nat} {c : Char} {quote quote' : Option Nat}
    (h : Joins offset c quote quote') {more : List Char} (hmore : Unbroken quote'.isSome more) :
    Unbroken quote.isSome (c :: more) := by
  rw [Unbroken]
  rcases h with ⟨hc, rfl⟩ | ⟨hc, rfl, hplain⟩
  · rw [if_pos hc]
    cases quote with
    | none => exact hmore
    | some q => exact hmore
  · rw [if_neg hc]
    exact ⟨hplain, hmore⟩

/-- A character belongs to the word in which it stands, or else it ends the word. -/
lemma tokensFrom_cons (offset start : Nat) (word : List Char) (quote : Option Nat) (c : Char)
    (cs : List Char) :
    (∃ quote', Joins offset c quote quote' ∧ tokensFrom offset start word quote (c :: cs) =
      tokensFrom (offset + c.utf8Size) (if word.isEmpty then offset else start) (c :: word)
        quote' cs) ∨
    quote = none ∧ ∃ us, Parts offset c us ∧ tokensFrom offset start word quote (c :: cs) =
      (tokensFrom (offset + c.utf8Size) (offset + c.utf8Size) [] none cs).map fun ts =>
        wordTokens (if word.isEmpty then offset else start) word.reverse ++ (us ++ ts) := by
  rw [tokensFrom]
  by_cases hc : c = '"'
  · exact .inl ⟨_, .inl ⟨hc, rfl⟩, if_pos hc⟩
  · simp only [if_neg hc]
    cases quote with
    | some q => exact .inl ⟨some q, .inr ⟨hc, rfl, .inl rfl⟩, rfl⟩
    | none =>
      rw [if_neg (by simp)]
      by_cases hblank : Text.isBlank c = true
      · exact .inr ⟨rfl, [], .blank hblank, if_pos hblank⟩
      · rw [if_neg hblank]
        by_cases hbracket : c = '(' ∨ c = ')'
        · rw [if_pos hbracket]
          rcases hbracket with rfl | rfl
          · exact .inr ⟨rfl, _, .opening, rfl⟩
          · exact .inr ⟨rfl, _, .closing, rfl⟩
        · rw [if_neg hbracket]
          have hplain : isWordChar c = true :=
            isWordChar_iff.mpr ⟨hblank, by simpa [hc] using hbracket⟩
          exact .inl ⟨none, .inr ⟨hc, rfl, .inr hplain⟩, rfl⟩

/-- Behind `before`, outside of quotes, the text consists of the tokens and of blanks. -/
inductive LaidOut : List Char → List Char → List PlacedToken → Prop
  | stop {before} : LaidOut before [] []
  | part {before c rest us ts} : Parts (Text.byteLength before) c us →
      LaidOut (before ++ [c]) rest ts → LaidOut before (c :: rest) (us ++ ts)
  | word {before word rest ts} : Unbroken false word → LaidOut (before ++ word) rest ts →
      LaidOut before (word ++ rest) (wordTokens (Text.byteLength before) word ++ ts)

lemma LaidOut.wordFrom {before word rest : List Char} {ts : List PlacedToken} {start : Nat}
    (h : LaidOut (before ++ word) rest ts) (hword : Unbroken false word)
    (hstart : word ≠ [] → start = Text.byteLength before) :
    LaidOut before (word ++ rest) (wordTokens start word ++ ts) := by
  by_cases hempty : word = []
  · subst hempty
    rwa [List.append_nil] at h
  · rw [hstart hempty]
    exact .word hword h

/-- Where the text is cut: `before` stands before the word so far, which is given last character
first, and a quote may be open in it. -/
structure InWord (before word : List Char) (offset start : Nat) (quote : Option Nat) : Prop where
  unbroken : ∀ more, Unbroken quote.isSome more → Unbroken false (word.reverse ++ more)
  offset_eq : offset = Text.byteLength (before ++ word.reverse)
  start_eq : word ≠ [] → start = Text.byteLength before

namespace InWord

variable {before word : List Char} {offset start : Nat} {quote quote' : Option Nat} {c : Char}

lemma next_offset (h : InWord before word offset start quote) (c : Char) :
    offset + c.utf8Size = Text.byteLength (before ++ word.reverse ++ [c]) := by
  rw [Text.byteLength_append, Text.byteLength_singleton, h.offset_eq]

lemma start_of_next (h : InWord before word offset start quote) :
    (if word.isEmpty then offset else start) = Text.byteLength before := by
  cases word with
  | nil => simpa using h.offset_eq
  | cons d word => simpa using h.start_eq

lemma initial : InWord [] [] 0 0 none where
  unbroken _ hmore := hmore
  offset_eq := rfl
  start_eq := absurd rfl

lemma cons (h : InWord before word offset start quote) (hc : Joins offset c quote quote') :
    InWord before (c :: word) (offset + c.utf8Size) (if word.isEmpty then offset else start)
      quote' where
  unbroken more hmore := by simpa using h.unbroken _ (hc.unbroken hmore)
  offset_eq := by simpa using h.next_offset c
  start_eq _ := h.start_of_next

lemma restart (h : InWord before word offset start none) (c : Char) :
    InWord (before ++ word.reverse ++ [c]) [] (offset + c.utf8Size) (offset + c.utf8Size) none where
  unbroken _ hmore := hmore
  offset_eq := by simpa using h.next_offset c
  start_eq := absurd rfl

lemma part (h : InWord before word offset start none) {cs : List Char} {us ts : List PlacedToken}
    (hc : Parts offset c us) (hts : LaidOut (before ++ word.reverse ++ [c]) cs ts) :
    LaidOut before (word.reverse ++ c :: cs)
      (wordTokens (if word.isEmpty then offset else start) word.reverse ++ (us ++ ts)) := by
  rw [h.offset_eq] at hc
  exact (LaidOut.part hc hts).wordFrom (by simpa using h.unbroken [] rfl) fun _ => h.start_of_next

end InWord

/-- The tokens of a text lie in it. -/
lemma laidOut_tokensFrom {cs before word : List Char} {offset start : Nat} {quote : Option Nat}
    {ts : List PlacedToken} (hword : InWord before word offset start quote)
    (h : tokensFrom offset start word quote cs = .ok ts) :
    LaidOut before (word.reverse ++ cs) ts := by
  induction cs generalizing before word offset start quote ts with
  | nil =>
    cases quote with
    | some q => cases h
    | none =>
      cases h
      simpa using LaidOut.stop.wordFrom (by simpa using hword.unbroken [] rfl)
        (by simpa using hword.start_eq)
  | cons c cs ih =>
    rcases tokensFrom_cons offset start word quote c cs with
      ⟨quote', hjoins, hcons⟩ | ⟨rfl, us, hparts, hcons⟩
    · rw [hcons] at h
      simpa using ih (hword.cons hjoins) h
    · rw [hcons] at h
      obtain ⟨ts, hts, rfl⟩ := Except.map_eq_ok_iff.mp h
      exact hword.part hparts (ih (hword.restart c) hts)

/-- The quote at the offset is open at the end of the text, or else none is. -/
def QuoteOpen (text : List Char) : Option Nat → Prop
  | none => Even (text.count '"')
  | some offset => ∃ rest, Remains text offset ('"' :: rest) ∧ '"' ∉ rest

lemma QuoteOpen.concat {text : List Char} {quote quote' : Option Nat} {c : Char}
    (h : QuoteOpen text quote) (hc : Joins (Text.byteLength text) c quote quote') :
    QuoteOpen (text ++ [c]) quote' := by
  rcases hc with ⟨rfl, rfl⟩ | ⟨hc, rfl, -⟩
  · cases quote with
    | none => exact ⟨[], ⟨text, rfl, rfl, h⟩, List.not_mem_nil⟩
    | some offset =>
      obtain ⟨rest, ⟨before, rfl, rfl, heven⟩, hrest⟩ := h
      simpa [QuoteOpen, List.count_append, List.count_eq_zero.mpr hrest, Nat.even_add_one] using
        heven
  · cases quote' with
    | none => simpa [QuoteOpen, List.count_append, hc] using h
    | some offset =>
      obtain ⟨rest, hremains, hrest⟩ := h
      exact ⟨rest ++ [c], hremains.append [c], by simp [hrest, Ne.symm hc]⟩

lemma quoteOpen_of_tokensFrom {cs before : List Char} {offset start : Nat} {word : List Char}
    {quote : Option Nat} {e : QueryError} (hquote : QuoteOpen before quote)
    (hoffset : offset = Text.byteLength before)
    (h : tokensFrom offset start word quote cs = .error e) :
    ∃ q, e = .malformed q .unterminatedQuote ∧ QuoteOpen (before ++ cs) (some q) := by
  induction cs generalizing before offset start word quote with
  | nil =>
    cases quote with
    | none => cases h
    | some q =>
      cases h
      exact ⟨q, rfl, by rwa [List.append_nil]⟩
  | cons c cs ih =>
    have hnext : offset + c.utf8Size = Text.byteLength (before ++ [c]) := by
      rw [Text.byteLength_append, Text.byteLength_singleton, hoffset]
    rw [← List.singleton_append, ← List.append_assoc]
    rcases tokensFrom_cons offset start word quote c cs with
      ⟨quote', hjoins, hcons⟩ | ⟨rfl, us, hparts, hcons⟩
    · rw [hcons] at h
      rw [hoffset] at hjoins
      exact ih (hquote.concat hjoins) hnext h
    · rw [hcons] at h
      have hnone : QuoteOpen (before ++ [c]) none := by
        simpa [QuoteOpen, List.count_append, hparts.ne_quote] using hquote
      exact ih hnone hnext (Except.map_eq_error_iff.mp h)

lemma spellings_of_keyword? {word : List Char} {token : Token} (h : keyword? word = some token) :
    word ∈ token.spellings ∧ token ∉ [.opening, .closing] := by
  unfold keyword? at h
  split_ifs at h with hand hor hnot
  · cases h
    subst hand
    decide
  · cases h
    subst hor
    decide
  · cases h
    subst hnot
    decide

lemma exists_of_mem_wordTokens {word : List Char} {offset : Nat} {t : PlacedToken}
    (h : t ∈ wordTokens offset word) :
    t.token ∉ [.opening, .closing] ∧ ∃ minuses, ∃ spelling ∈ t.token.spellings, ∃ rest,
      word = minuses ++ (spelling ++ rest) ∧ t.offset = offset + Text.byteLength minuses ∧
        '"' ∉ minuses := by
  induction word generalizing offset with
  | nil => cases h
  | cons c word ih =>
    rw [wordTokens] at h
    cases hkeyword : keyword? (c :: word) with
    | some token =>
      rw [hkeyword] at h
      cases List.mem_singleton.mp h
      obtain ⟨hspelling, hbracket⟩ := spellings_of_keyword? hkeyword
      exact ⟨hbracket, [], _, hspelling, [], by simp, rfl, List.not_mem_nil⟩
    | none =>
      simp only [hkeyword] at h
      by_cases hminus : c = '-' ∧ word ≠ []
      · rw [if_pos hminus] at h
        obtain ⟨rfl, -⟩ := hminus
        rcases List.mem_cons.mp h with rfl | hrest
        · exact ⟨by simp, [], ['-'], by simp [Token.spellings], word, rfl, rfl, List.not_mem_nil⟩
        · obtain ⟨hbracket, minuses, spelling, hspelling, rest, rfl, hoffset, hquote⟩ := ih hrest
          refine ⟨hbracket, '-' :: minuses, spelling, hspelling, rest, rfl, ?_, ?_⟩
          · rw [hoffset, ← List.singleton_append, Text.byteLength_append, ← Nat.add_assoc]
            rfl
          · simpa using hquote
      · rw [if_neg hminus] at h
        cases List.mem_singleton.mp h
        exact ⟨by simp, [], c :: word, List.mem_singleton_self _, [], by simp, rfl,
          List.not_mem_nil⟩

lemma matched_of_unbroken (word : List Char) : (Unbroken false word → Matched word) ∧
    (Unbroken true word →
      ∃ inner rest, word = inner ++ '"' :: rest ∧ '"' ∉ inner ∧ Matched rest) := by
  induction word with
  | nil => exact ⟨fun _ => .nil, fun h => absurd h (by simp [Unbroken])⟩
  | cons c word ih =>
    obtain ⟨houtside, hinside⟩ := ih
    refine ⟨fun h => ?_, fun h => ?_⟩ <;> rw [Unbroken] at h
    · by_cases hc : c = '"'
      · rw [if_pos hc] at h
        obtain ⟨inner, rest, rfl, hinner, hrest⟩ := hinside h
        rw [hc]
        exact .quoted hinner hrest
      · rw [if_neg hc] at h
        have hplain : isWordChar c = true := h.1.resolve_left Bool.false_ne_true
        exact .other (isWordChar_iff.mp hplain).2 (houtside h.2)
    · by_cases hc : c = '"'
      · rw [if_pos hc] at h
        exact ⟨[], word, by rw [hc]; rfl, List.not_mem_nil, houtside h⟩
      · rw [if_neg hc] at h
        obtain ⟨inner, rest, rfl, hinner, hrest⟩ := hinside h.2
        exact ⟨c :: inner, rest, rfl, by simp [hinner, Ne.symm hc], hrest⟩

lemma LaidOut.remains {before rest : List Char} {ts : List PlacedToken} (h : LaidOut before rest ts)
    (hbefore : Even (before.count '"')) {t : PlacedToken} (ht : t ∈ ts) :
    ∃ spelling ∈ t.token.spellings, ∃ tail,
      Remains (before ++ rest) t.offset (spelling ++ tail) := by
  induction h with
  | stop => cases ht
  | @part before c rest us ts hparts _ ih =>
    rcases List.mem_append.mp ht with hmem | hrest
    · cases hparts with
      | blank => cases hmem
      | opening | closing =>
        cases List.mem_singleton.mp hmem
        exact ⟨_, List.mem_singleton_self _, rest, before, rfl, rfl, hbefore⟩
    · simpa using ih (by simpa [List.count_append, hparts.ne_quote] using hbefore) hrest
  | @word before word rest ts hword _ ih =>
    rcases List.mem_append.mp ht with hmem | hrest
    · obtain ⟨-, minuses, spelling, hspelling, tail, rfl, hoffset, hquote⟩ :=
        exists_of_mem_wordTokens hmem
      refine ⟨spelling, hspelling, tail ++ rest, before ++ minuses, by simp, ?_, ?_⟩
      · rw [Text.byteLength_append, hoffset]
      · simpa [List.count_append, List.count_eq_zero.mpr hquote] using hbefore
    · have heven := ((matched_of_unbroken word).1 hword).even_count
      simpa using ih (by simpa [List.count_append] using hbefore.add heven) hrest

end Query

end ReadLater
