import ReadLater.Text.CodeRange
import ReadLater.Text.InvisibleTable

/-! # Texts quoted in messages -/

namespace ReadLater.Text

/-- A character between quotes; what would not be seen stands as its code. -/
def quoteChar (c : Char) : List Char :=
  if c = '"' then ['\\', '"']
  else if c = '\\' then ['\\', '\\']
  else if c = '\n' then ['\\', 'n']
  else if c = '\r' then ['\\', 'r']
  else if c = '\t' then ['\\', 't']
  else if c.toNat = 0 then ['\\', '0']
  else if inRanges c.toNat invisibleRanges then
    ['\\', 'u', '\x7b'] ++ Nat.toDigits 16 c.toNat ++ ['\x7d']
  else [c]

def quoted (s : String) : List Char :=
  '"' :: s.toList.flatMap quoteChar ++ ['"']

end ReadLater.Text
