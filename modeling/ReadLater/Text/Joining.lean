import ReadLater.Text.CodeRange
import ReadLater.Text.WidthTable

/-!
# Joined characters

Letters of a ligature, letters of a flag and parts of an emoji sequence take other columns together
than apart. Whether a character is joined to what follows it depends on the tail, which sums up the
text after the character.
-/

namespace ReadLater.Text

inductive Tail
  | plain
  | lineFeed
  | emoji
  | skinTone
  | flagLetter
  | flagLetters
  /-- A joiner before an emoji. -/
  | joiner
  /-- An enclosing keycap before such a joiner. -/
  | keycap
  /-- A letter of a flag before such a joiner. -/
  | joinedFlagLetter
  /-- Several of them, an even number or an odd one. -/
  | joinedFlagLetters (even : Bool)
  /-- Tag letters before the end of a tag sequence. -/
  | tagLetters (count : Nat)
  /-- Tag digits before such letters, or before the end. -/
  | tagDigits (count : Nat)
  | alef
  | hebrewLamed (joined : Bool)
  | khmerLetter
  | bugineseYa (joined : Bool)
  | bugineseVowelYa
  | tifinagh (joined : Bool)
  | tifinaghJoiner
  | lisuTone
  | orkhonI (joined : Bool)
  | kiratE
  | kiratAi
deriving DecidableEq, Repr

def within (first last : Nat) (c : Char) : Bool :=
  first ≤ c.toNat && c.toNat ≤ last

def isJoiner (c : Char) : Bool := c.toNat == 0x200D

def isEmoji (c : Char) : Bool := inRanges c.toNat emojiRanges

/-- The character has an emoji style that a selector asks for. -/
def takesEmojiStyle (c : Char) : Bool :=
  inRanges c.toNat textEmojiRanges || inRanges c.toNat styledEmojiRanges ||
    c.toNat == 0x1F21A || c.toNat == 0x1F22F

/-- The character is an emoji with a text style. -/
def takesTextStyle (c : Char) : Bool := inRanges c.toNat styledEmojiRanges

/-- A quotation mark that a selector makes as wide as an ideograph. -/
def takesWideStyle (c : Char) : Bool :=
  within 0x2018 0x2019 c || within 0x201C 0x201D c

def isSkinTone (c : Char) : Bool := within 0x1F3FB 0x1F3FF c

def isFlagLetter (c : Char) : Bool := within 0x1F1E6 0x1F1FF c

def isTagLetter (c : Char) : Bool := within 0xE0061 0xE007A c

def isTagDigit (c : Char) : Bool := within 0xE0030 0xE0039 c

def isArabicAlef (c : Char) : Bool :=
  within 0x622 0x623 c || c.toNat == 0x625 || c.toNat == 0x627 || within 0x671 0x673 c ||
    c.toNat == 0x675 || within 0x773 0x774 c || within 0x870 0x882 c

def isArabicLam (c : Char) : Bool :=
  c.toNat == 0x644 || within 0x6B5 0x6B8 c || c.toNat == 0x76A || c.toNat == 0x8A6 ||
    c.toNat == 0x8C7

/-- A mark that does not part the letters of an Arabic ligature. -/
def isArabicMark (c : Char) : Bool :=
  inRanges c.toNat zeroWidthRanges && !inRanges c.toNat partingRanges

/-- A Khmer letter that takes a subscript form. -/
def isKhmerLetter (c : Char) : Bool :=
  within 0x1780 0x1782 c || within 0x1784 0x1787 c || within 0x1789 0x178C c ||
    within 0x178E 0x1793 c || within 0x1795 0x1798 c || within 0x179B 0x179D c ||
    c.toNat == 0x17A0 || c.toNat == 0x17A2 || c.toNat == 0x17A7 || within 0x17AB 0x17AC c ||
    c.toNat == 0x17AF

def isTifinagh (c : Char) : Bool :=
  within 0x2D31 0x2D65 c || c.toNat == 0x2D6F

/-- An ignorable mark that does not part the letters of other ligatures. -/
def isIgnorableMark (c : Char) : Bool :=
  c.toNat == 0x34F || within 0x17B4 0x17B5 c || within 0x180B 0x180D c || c.toNat == 0x180F ||
    within 0xFE00 0xFE0F c || within 0xE0100 0xE01EF c

namespace Tail

/-- The tail of a character that is joined to nothing. -/
def ofChar (c : Char) : Tail :=
  let code := c.toNat
  if isSkinTone c then .skinTone
  else if isFlagLetter c then .flagLetter
  else if isEmoji c then .emoji
  else if isArabicAlef c then .alef
  else if code = 0x5DC then .hebrewLamed false
  else if isKhmerLetter c then .khmerLetter
  else if code = 0x1A10 then .bugineseYa false
  else if isTifinagh c then .tifinagh false
  else if within 0xA4FC 0xA4FD c then .lisuTone
  else if code = 0x10C03 then .orkhonI false
  else if code = 0x16D67 then .kiratE
  else if code = 0x16D68 then .kiratAi
  else .plain

/-- A letter that may end a ligature with joiners and ignorable marks in it. -/
def isLetter : Tail → Bool
  | .hebrewLamed _ | .khmerLetter | .bugineseYa _ | .bugineseVowelYa | .tifinagh _
  | .tifinaghJoiner | .lisuTone | .orkhonI _ => true
  | _ => false

/-- Selectors of a style stand inside of these ligatures. -/
def takesSelector (t : Tail) : Bool :=
  t.isLetter || t = .alef

/-- A letter after a joiner. -/
def afterJoiner : Tail → Tail
  | .hebrewLamed _ => .hebrewLamed true
  | .bugineseYa _ => .bugineseYa true
  | .tifinagh _ => .tifinagh true
  | .orkhonI _ => .orkhonI true
  | t => t

/-- An emoji sequence that a joiner may stand before. -/
def takesJoiner : Tail → Bool
  | .emoji | .skinTone | .flagLetters | .joinedFlagLetters _ => true
  | _ => false

/-- The black flag stands before a whole tag sequence. -/
def takesFlag : Tail → Bool
  | .tagLetters count => 3 ≤ count
  | .tagDigits count => count = 3
  | _ => false

/-- The columns of a part of an emoji sequence, and the tail with it. -/
def joinEmoji? (c : Char) (t : Tail) : Option (Int × Tail) :=
  let code := c.toNat
  if t.takesJoiner && isJoiner c then some (0, .joiner)
  else if t.takesFlag && code = 0x1F3F4 then some (0, .emoji)
  else
    match t with
    | .skinTone => if inRanges code modifierBaseRanges then some (0, .emoji) else none
    | .flagLetter | .flagLetters => if isFlagLetter c then some (1, .flagLetters) else none
    | .joiner =>
      if code = 0x20E3 then some (0, .keycap)
      else if isFlagLetter c then some (1, .joinedFlagLetter)
      else if isSkinTone c then some (0, .skinTone)
      else if code = 0xE007F then some (0, .tagLetters 0)
      else if isEmoji c then some (0, .emoji)
      else none
    | .joinedFlagLetter | .joinedFlagLetters false =>
      if isFlagLetter c then some (-1, .joinedFlagLetters true) else none
    | .joinedFlagLetters true =>
      if isFlagLetter c then some (3, .joinedFlagLetters false) else none
    | .tagLetters count =>
      if isTagLetter c && count < 6 then some (0, .tagLetters (count + 1))
      else if isTagDigit c && count < 5 then some (0, .tagDigits 1)
      else none
    | .tagDigits count =>
      if isTagDigit c && count < 3 then some (0, .tagDigits (count + 1)) else none
    | _ => none

/-- The columns of a letter of a ligature, and the tail with it. -/
def joinLetter? (c : Char) (t : Tail) : Option (Int × Tail) :=
  let code := c.toNat
  match t with
  | .alef =>
    if isArabicLam c then some (0, .plain)
    else if isArabicMark c then some (0, .alef)
    else none
  | .hebrewLamed true => if code = 0x5D0 then some (0, .plain) else none
  | .khmerLetter => if code = 0x17D2 then some (-1, .plain) else none
  | .bugineseYa true => if code = 0x1A17 then some (0, .bugineseVowelYa) else none
  | .bugineseVowelYa => if code = 0x1A15 then some (0, .plain) else none
  | .tifinagh joined =>
    if code = 0x2D7F then some (1, .tifinaghJoiner)
    else if joined && isTifinagh c then some (0, .plain)
    else none
  | .tifinaghJoiner => if isTifinagh c then some (-1, .plain) else none
  | .lisuTone => if within 0xA4F8 0xA4FB c then some (0, .plain) else none
  | .orkhonI true => if code = 0x10C32 then some (0, .plain) else none
  | .kiratE =>
    if code = 0x16D63 ∨ code = 0x16D69 then some (0, .plain)
    else if code = 0x16D67 then some (0, .kiratAi)
    else if code = 0x16D68 then some (1, .kiratE)
    else none
  | .kiratAi => if code = 0x16D63 then some (0, .plain) else none
  | _ => none

/-- The columns of a character that is joined to the tail, and the tail with it. -/
def join? (c : Char) (t : Tail) : Option (Int × Tail) :=
  if t.isLetter && isJoiner c then some (0, t.afterJoiner)
  else if t.isLetter && isIgnorableMark c then some (0, t)
  else (t.joinEmoji? c).or (t.joinLetter? c)

end Tail

end ReadLater.Text
