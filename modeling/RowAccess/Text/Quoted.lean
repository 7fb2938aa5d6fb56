import RowAccess.Unicode.Class

/-!
# Quoted text

A quoted text stands between double quotes. Quotes and backslashes are written after a backslash, as
are the letters of a few control characters; every other character that cannot be seen alone, because
it is invisible or joins the one before it, is written as its code in hexadecimal.
-/

namespace RowAccess.Text

open RowAccess.Number (lowerHex)

/-- Characters that are written as a code. -/
def isHidden (c : Char) : Bool :=
  if 0x20 ≤ c.toNat ∧ c.toNat < 0x7F then false else Unicode.Class.hidden.has c

/-- A character between quotes. -/
def escapeChar (c : Char) : List Char :=
  if c = '\x00' then ['\\', '0']
  else if c = '\t' then ['\\', 't']
  else if c = '\r' then ['\\', 'r']
  else if c = '\n' then ['\\', 'n']
  else if c = '"' then ['\\', '"']
  else if c = '\\' then ['\\', '\\']
  else if isHidden c then '\\' :: 'u' :: '\x7b' :: lowerHex c.toNat ++ ['\x7d']
  else [c]

/-- A text between quotes. -/
def quoted (s : List Char) : List Char := '"' :: s.flatMap escapeChar ++ ['"']

end RowAccess.Text
