import ReadLater.Text.Joining

/-!
# Display width

The number of terminal columns that a text takes. Most characters take the same columns everywhere.
As some take others before certain characters, a text is measured from its end.
-/

namespace ReadLater.Text

/-- Columns of a character on its own; none for a control character. -/
def charWidth? (c : Char) : Option Nat :=
  let code := c.toNat
  if code < 32 ∨ (127 ≤ code ∧ code < 160) then none
  else if code < 127 then some 1
  else if code = 0x17D8 then some 3
  else if inRanges code zeroWidthRanges then some 0
  else if inRanges code wideRanges then some 2
  else some 1

/-- A style that a selector asks for. -/
inductive Style
  | emoji
  | text
  /-- As wide as an ideograph. -/
  | wide
deriving DecidableEq, Repr

def Style.ofSelector? (c : Char) : Option Style :=
  if c.toNat = 0xFE0F then some .emoji
  else if c.toNat = 0xFE0E then some .text
  else if c.toNat = 0xFE01 then some .wide
  else none

/-- What stands after a character, as far as it changes the columns that the character takes. -/
structure Ahead where
  tail : Tail := .plain
  /-- The style of the selector that the character is followed by. -/
  style : Option Style := none
deriving DecidableEq, Repr

namespace Ahead

/-- What a selector of a style leaves of the tail. An emoji sequence goes on before the selector of
the emoji style only. -/
def selected (tail : Tail) (style : Style) : Ahead :=
  let goesOn := style = .emoji && (tail = .joiner || tail = .keycap)
  ⟨if tail.takesSelector || goesOn then tail else .plain, style⟩

/-- The tail before a character that has no such style as is selected. -/
def unselected (a : Ahead) : Tail :=
  if a.style.isNone || a.tail.takesSelector then a.tail else .plain

/-- The columns of a character in the style that is selected for it, and the tail with it. -/
def styled? (c : Char) (a : Ahead) : Option (Int × Tail) :=
  match a.style with
  | some .emoji =>
    if takesEmojiStyle c then
      some (if a.tail = .joiner || a.tail = .keycap then 0 else 2, .emoji)
    else none
  | some .text => if takesTextStyle c then some (1, .plain) else none
  | some .wide => if takesWideStyle c then some (2, .plain) else none
  | none => none

/-- Columns of a character before a tail, and what is ahead of the character before it. -/
def ofTail (c : Char) (tail : Tail) : Int × Ahead :=
  if c.toNat ≤ 0xA0 then
    if c = '\n' then (1, ⟨.lineFeed, none⟩)
    else if c = '\r' && tail = .lineFeed then (0, {})
    else (1, {})
  else
    match Style.ofSelector? c with
    | some style => (0, selected tail style)
    | none =>
      let (columns, tail) := (tail.join? c).getD ((charWidth? c).getD 1, .ofChar c)
      (columns, ⟨tail, none⟩)

/-- Columns of a character, and what is ahead of the character before it. -/
def step (c : Char) (a : Ahead) : Int × Ahead :=
  match a.styled? c with
  | some (columns, tail) => (columns, ⟨tail, none⟩)
  | none => ofTail c a.unselected

end Ahead

/-- The columns of a text, and what is ahead of a character before it. -/
def measure : List Char → Int × Ahead
  | [] => (0, {})
  | c :: rest =>
    let (columns, ahead) := measure rest
    let (own, ahead) := ahead.step c
    (columns + own, ahead)

def width (cs : List Char) : Nat :=
  (measure cs).1.toNat

/-- The longest prefix whose characters, each on its own, take at most `room` columns. -/
def fitting (room : Nat) : List Char → List Char
  | [] => []
  | c :: rest =>
    let own := (charWidth? c).getD 0
    if own ≤ room then c :: fitting (room - own) rest else []

/-- Cuts a text to a number of columns, the last of which shows that it was cut. -/
def truncate (columns : Nat) (cs : List Char) : List Char :=
  if width cs ≤ columns then cs
  else if columns = 0 then ['…']
  else fitting (columns - 1) cs ++ ['…']

/-- Fills a text with blanks up to a number of columns. -/
def padColumns (columns : Nat) (cs : List Char) : List Char :=
  cs ++ List.replicate (columns - width cs) ' '

end ReadLater.Text
