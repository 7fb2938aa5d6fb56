import RowAccess.Data
import RowAccess.Number.Digits
import RowAccess.Number.Hexadecimal

/-!
# JSON

Reading and writing data as JSON. A number without point and exponent is whole when it fits 64 bits
and is not the negative zero; every other number is real. Of several entries of an object with one
key the last one counts.
-/

namespace RowAccess.Data.Json

open RowAccess.Number (Binary64 ofDigits digitValue signed isHexDigit ofHexDigits lowerHexDigit)

/-! ### Numbers -/

/-- The largest number of 64 bits. -/
def wordLimit : Nat := 0xFFFFFFFFFFFFFFFF

/-- Takes digits into a number for as long as it fits 64 bits, and returns the digits left over. -/
def takeDigits (n : Nat) : List Char → Nat × List Char
  | [] => (n, [])
  | c :: rest =>
      let next := n * 10 + digitValue c
      if wordLimit < next then (n, c :: rest) else takeDigits next rest

/-- The largest power of ten of the format. -/
def largestPower : Nat := 308

/-- `x * 10 ^ e`, rounded after each multiplication or division. There is none when it is too large. -/
def shift? (x : Binary64) (e : Int) : Option Binary64 :=
  let k := e.natAbs
  if 0 ≤ e then
    if k ≤ largestPower then
      match x.product (.powerOfTen k) with
      | .infinite _ => none
      | y => some y
    else if x.equals (.zero false) then some x else none
  else if k ≤ largestPower then some (x.quotient (.powerOfTen k))
  else
    let first := x.quotient (.powerOfTen largestPower)
    let rest := k - largestPower
    if rest ≤ largestPower then some (first.quotient (.powerOfTen rest)) else some (.zero false)

/-- A real number from its parts, with digits that no longer fit left out. -/
def real? (negative : Bool) (whole part : List Char) (e : Int) : Option Binary64 :=
  let (n, dropped) := takeDigits 0 whole
  let (n, spare) := takeDigits n part
  let exponent := e + dropped.length - (part.length - spare.length : Nat)
  (shift? (.ofInt n) exponent).map fun x => if negative then x.negate else x

/-- An exponent with its mark. -/
def exponent (s : List Char) : Option (Option Int × List Char) :=
  match s with
  | c :: rest =>
      if c = 'e' ∨ c = 'E' then
        let (negative, rest) := Binary64.takeSign rest
        let ds := rest.takeWhile Char.isDigit
        if ds.isEmpty then none
        else
          let n : Int := ofDigits ds
          some (some (if negative then -n else n), rest.dropWhile Char.isDigit)
      else some (none, s)
  | [] => some (none, [])

/-- A fraction with its point. -/
def fraction (s : List Char) : Option (Option (List Char) × List Char) :=
  match s with
  | '.' :: rest =>
      let ds := rest.takeWhile Char.isDigit
      if ds.isEmpty then none else some (some ds, rest.dropWhile Char.isDigit)
  | _ => some (none, s)

/-- A number. -/
def number (s : List Char) : Option (Data × List Char) := do
  let (negative, s) := match s with
    | '-' :: rest => (true, rest)
    | _ => (false, s)
  let whole := s.takeWhile Char.isDigit
  let rest := s.dropWhile Char.isDigit
  if whole.isEmpty || (whole.head? == some '0' && whole.length ≠ 1) then none
  else
    let (part, rest) ← fraction rest
    let (e, rest) ← exponent rest
    let n := ofDigits whole
    let isWhole := part.isNone && e.isNone &&
      (if negative then n ≠ 0 && n ≤ 0x8000000000000000 else n ≤ wordLimit)
    if isWhole then some (.whole (if negative then -(n : Int) else n), rest)
    else (real? negative whole (part.getD []) (e.getD 0)).map fun x => (.real x, rest)

/-! ### Texts -/

/-- Four hexadecimal digits. -/
def hex4 (s : List Char) : Option (Nat × List Char) :=
  let ds := s.take 4
  if ds.length = 4 ∧ ds.all isHexDigit then some (ofHexDigits ds, s.drop 4) else none

/-- The character of a code, perhaps the first half of one. -/
def escapedCode (s : List Char) : Option (Char × List Char) := do
  let (hi, s) ← hex4 s
  if 0xD800 ≤ hi ∧ hi < 0xDC00 then
    match s with
    | '\\' :: 'u' :: s =>
        let (lo, s) ← hex4 s
        if 0xDC00 ≤ lo ∧ lo < 0xE000 then
          some (Char.ofNat (0x10000 + (hi - 0xD800) * 0x400 + (lo - 0xDC00)), s)
        else none
    | _ => none
  else if 0xDC00 ≤ hi ∧ hi < 0xE000 then none
  else some (Char.ofNat hi, s)

/-- The character behind a backslash. -/
def escaped : List Char → Option (Char × List Char)
  | '"' :: s => some ('"', s)
  | '\\' :: s => some ('\\', s)
  | '/' :: s => some ('/', s)
  | 'b' :: s => some ('\x08', s)
  | 'f' :: s => some ('\x0c', s)
  | 'n' :: s => some ('\n', s)
  | 'r' :: s => some ('\r', s)
  | 't' :: s => some ('\t', s)
  | 'u' :: s => escapedCode s
  | _ => none

/-- The rest of a text up to its closing quote, in at most `fuel` characters. -/
def textBody : Nat → List Char → Option (List Char × List Char)
  | 0, _ => none
  | fuel + 1, s =>
      match s with
      | [] => none
      | '"' :: rest => some ([], rest)
      | '\\' :: rest => do
          let (c, rest) ← escaped rest
          let (cs, rest) ← textBody fuel rest
          some (c :: cs, rest)
      | c :: rest => do
          if c.toNat < 0x20 then none
          else
            let (cs, rest) ← textBody fuel rest
            some (c :: cs, rest)

/-- A text behind its opening quote. -/
def text (s : List Char) : Option (String × List Char) :=
  (textBody (s.length + 1) s).map fun r => (String.ofList r.1, r.2)

/-! ### Lists and tables -/

def isSpace (c : Char) : Bool := c == ' ' || c == '\t' || c == '\n' || c == '\r'

def skipSpace (s : List Char) : List Char := s.dropWhile isSpace

/-- The items of a list behind its first item's place, in at most `fuel` of them. -/
def items (value : List Char → Option (Data × List Char)) :
    Nat → List Char → Option (List Data × List Char)
  | 0, _ => none
  | fuel + 1, s => do
      let (d, rest) ← value s
      match skipSpace rest with
      | ',' :: rest =>
          let (ds, rest) ← items value fuel rest
          some (d :: ds, rest)
      | ']' :: rest => some ([d], rest)
      | _ => none

/-- The entries of a table behind its first key's place. -/
def entries (value : List Char → Option (Data × List Char)) :
    Nat → List Char → Option (List (String × Data) × List Char)
  | 0, _ => none
  | fuel + 1, s =>
      match skipSpace s with
      | '"' :: rest => do
          let (key, rest) ← text rest
          match skipSpace rest with
          | ':' :: rest =>
              let (d, rest) ← value rest
              match skipSpace rest with
              | ',' :: rest =>
                  let (es, rest) ← entries value fuel rest
                  some (if es.any (·.1 == key) then es else (key, d) :: es, rest)
              | '\x7d' :: rest => some ([(key, d)], rest)
              | _ => none
          | _ => none
      | _ => none

/-- A word that stands for a value. -/
def word (s : List Char) : Option (Data × List Char) :=
  if "null".toList.isPrefixOf s then some (.null, s.drop 4)
  else if "true".toList.isPrefixOf s then some (.bool true, s.drop 4)
  else if "false".toList.isPrefixOf s then some (.bool false, s.drop 5)
  else number s

/-- A value with lists and tables nested up to `depth`. -/
def value : Nat → List Char → Option (Data × List Char)
  | depth, s =>
      match skipSpace s, depth with
      | '"' :: rest, _ => (text rest).map fun r => (.text r.1, r.2)
      | '[' :: rest, depth + 1 =>
          match skipSpace rest with
          | ']' :: rest => some (.list [], rest)
          | rest => (items (value depth) (rest.length + 1) rest).map fun r => (.list r.1, r.2)
      | '\x7b' :: rest, depth + 1 =>
          match skipSpace rest with
          | '\x7d' :: rest => some (.table [], rest)
          | rest => (entries (value depth) (rest.length + 1) rest).map fun r => (.table r.1, r.2)
      | s, _ => word s

/-- How deep lists and tables may be nested. -/
def nestingLimit : Nat := 127

/-- Reads a document. -/
def read? (s : List Char) : Option Data :=
  match value nestingLimit s with
  | some (d, rest) => if (skipSpace rest).isEmpty then some d else none
  | none => none

/-! ### Writing -/

/-- A character between quotes. -/
def escapeChar (c : Char) : List Char :=
  if c = '"' then ['\\', '"']
  else if c = '\\' then ['\\', '\\']
  else if c = '\n' then ['\\', 'n']
  else if c = '\r' then ['\\', 'r']
  else if c = '\t' then ['\\', 't']
  else if c.toNat < 0x20 then
    ['\\', 'u', '0', '0', lowerHexDigit (c.toNat / 16), lowerHexDigit (c.toNat % 16)]
  else [c]

def quote (s : String) : List Char := '"' :: s.toList.flatMap escapeChar ++ ['"']

/-- Pieces with commas between them. -/
def commaSeparated (pieces : List (List Char)) : List Char := [','].intercalate pieces

mutual

/-- Writes data. Reals that are no finite numbers have no form and become null. -/
def write : Data → List Char
  | .null => "null".toList
  | .bool b => if b then "true".toList else "false".toList
  | .whole n => signed n
  | .real x =>
      match x with
      | .finite .. => x.text
      | _ => "null".toList
  | .text s => quote s
  | .moment s => quote s
  | .list ds => '[' :: commaSeparated (writeItems ds) ++ [']']
  | .table es => '\x7b' :: commaSeparated (writeEntries es) ++ ['\x7d']

def writeItems : List Data → List (List Char)
  | [] => []
  | d :: ds => write d :: writeItems ds

def writeEntries : List (String × Data) → List (List Char)
  | [] => []
  | (key, d) :: es => (quote key ++ ':' :: write d) :: writeEntries es

end

end RowAccess.Data.Json
