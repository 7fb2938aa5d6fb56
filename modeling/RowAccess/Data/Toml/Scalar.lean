import RowAccess.Calendar.Date
import RowAccess.Data
import RowAccess.Number.Digits
import RowAccess.Number.Hexadecimal

/-!
# TOML texts, keys, numbers and moments

The parts of a TOML document that hold no others. Each function reads its part at the start of a text
and returns it with the text behind it. Where a part is followed by something that it cannot
continue with, reading stops there, and whoever reads on refuses the document.

The functions for texts take fuel: one unit for each character, and one more.
-/

namespace RowAccess.Data.Toml

open RowAccess.Number (Binary64 ofDigits isHexDigit hexDigitValue ofHexDigits scalar?)

/-! ### Lines -/

def isBlank (c : Char) : Bool := c == ' ' || c == '\t'

def skipBlanks (s : List Char) : List Char := s.dropWhile isBlank

/-- Characters that may stand in texts and comments: a tab, and all that are no controls of ASCII. -/
def isPlain (c : Char) : Bool := c == '\t' || (0x20 ≤ c.toNat && c.toNat != 0x7F)

/-- A line break. -/
def lineBreak : List Char → Option (List Char)
  | '\n' :: rest => some rest
  | '\r' :: '\n' :: rest => some rest
  | _ => none

/-- What follows a comment, or the whole text when none begins it. -/
def skipComment : List Char → List Char
  | '#' :: rest => rest.dropWhile isPlain
  | s => s

/-- The end of a line, perhaps with a comment before it. The end of the text ends the last line. -/
def lineEnd (s : List Char) : Option (List Char) :=
  match skipComment (skipBlanks s) with
  | [] => some []
  | s => lineBreak s

/-! ### Texts -/

/-- A character by the hexadecimal digits of its code. -/
def coded (width : Nat) (s : List Char) : Option (Char × List Char) :=
  let ds := s.take width
  if ds.length = width ∧ ds.all isHexDigit then
    (scalar? (ofHexDigits ds)).map fun c => (c, s.drop width)
  else none

/-- The character behind a backslash. -/
def escaped : List Char → Option (Char × List Char)
  | 'b' :: s => some ('\x08', s)
  | 'f' :: s => some ('\x0c', s)
  | 'n' :: s => some ('\n', s)
  | 'r' :: s => some ('\r', s)
  | 't' :: s => some ('\t', s)
  | '"' :: s => some ('"', s)
  | '\\' :: s => some ('\\', s)
  | 'u' :: s => coded 4 s
  | 'U' :: s => coded 8 s
  | _ => none

/-- One character put before what is read next. -/
def andThen (c : Char) (next : Option (List Char × List Char)) : Option (List Char × List Char) :=
  next.map fun r => (c :: r.1, r.2)

/-- The rest of a text on one line, up to its closing quote. Only double quotes allow escapes. -/
def lineText (quote : Char) : Nat → List Char → Option (List Char × List Char)
  | 0, _ => none
  | fuel + 1, s =>
      match s with
      | [] => none
      | c :: rest =>
          if c = quote then some ([], rest)
          else if c = '\\' ∧ quote = '"' then
            (escaped rest).bind fun r => andThen r.1 (lineText quote fuel r.2)
          else if isPlain c then andThen c (lineText quote fuel rest)
          else none

/-- Line breaks and blanks behind a backslash that stands at the end of a line. -/
def continuation (s : List Char) : Option (List Char) :=
  (lineBreak (skipBlanks s)).map fun rest => skipLines rest.length rest
where
  skipLines : Nat → List Char → List Char
    | 0, s => s
    | fuel + 1, s =>
        match lineBreak (skipBlanks s) with
        | some rest => skipLines fuel rest
        | none => skipBlanks s

/-- The closing quotes of a text of several lines, behind three of them. Up to two more belong to the
text. -/
def closing (quote : Char) (s : List Char) : List Char × List Char :=
  let more := (s.takeWhile (· == quote)).take 2
  (more, s.drop more.length)

/-- The rest of a text of several lines. -/
def longText (quote : Char) : Nat → List Char → Option (List Char × List Char)
  | 0, _ => none
  | fuel + 1, s =>
      if [quote, quote, quote].isPrefixOf s then some (closing quote (s.drop 3))
      else
        match lineBreak s, s with
        | some rest, _ => andThen '\n' (longText quote fuel rest)
        | none, [] => none
        | none, c :: rest =>
            if c = '\\' ∧ quote = '"' then
              match continuation rest with
              | some rest => longText quote fuel rest
              | none => (escaped rest).bind fun r => andThen r.1 (longText quote fuel r.2)
            else if isPlain c then andThen c (longText quote fuel rest)
            else none

/-- A text on one line behind its opening quote. -/
def shortQuoted (quote : Char) (s : List Char) : Option (String × List Char) :=
  (lineText quote (s.length + 1) s).map fun r => (String.ofList r.1, r.2)

/-- A text behind its first quote. A line break right behind three quotes does not count. -/
def quoted (quote : Char) (s : List Char) : Option (String × List Char) :=
  if [quote, quote].isPrefixOf s then
    let s := s.drop 2
    let s := (lineBreak s).getD s
    (longText quote (s.length + 1) s).map fun r => (String.ofList r.1, r.2)
  else shortQuoted quote s

/-! ### Keys -/

def isKeyChar (c : Char) : Bool := c.isAlphanum || c == '-' || c == '_'

/-- One part of a key. -/
def keyPart : List Char → Option (String × List Char)
  | '"' :: rest => shortQuoted '"' rest
  | '\'' :: rest => shortQuoted '\'' rest
  | s =>
      let name := s.takeWhile isKeyChar
      if name.isEmpty then none else some (String.ofList name, s.dropWhile isKeyChar)

/-- The parts of a key behind its first part, each after a point. -/
def keyParts : Nat → List Char → Option (List String × List Char)
  | 0, _ => none
  | fuel + 1, s =>
      match skipBlanks s with
      | '.' :: rest => do
          let (part, rest) ← keyPart (skipBlanks rest)
          let (parts, rest) ← keyParts fuel rest
          some (part :: parts, rest)
      | s => some ([], s)

/-- How many parts a key has at most, and how deep values are nested at most. -/
def depthLimit : Nat := 79

/-- A key as the names on the way to it and the last name. -/
structure Key where
  path : List String
  name : String
deriving Repr, DecidableEq

/-- The key with the parts `first :: rest`. -/
def Key.ofParts (first : String) : List String → Key
  | [] => ⟨[], first⟩
  | next :: rest =>
      let k := ofParts next rest
      ⟨first :: k.path, k.name⟩

/-- A key with the blanks around it. -/
def key (s : List Char) : Option (Key × List Char) := do
  let (first, rest) ← keyPart (skipBlanks s)
  let (parts, rest) ← keyParts (rest.length + 1) rest
  if parts.length < depthLimit then some (Key.ofParts first parts, rest) else none

/-! ### Numbers -/

/-- Digits, with single underscores between them left out. -/
def digitRun (isDigit : Char → Bool) : List Char → List Char × List Char
  | [] => ([], [])
  | c :: rest =>
      if isDigit c then
        let r := digitRun isDigit rest
        (c :: r.1, r.2)
      else if c = '_' ∧ rest.head?.any isDigit then digitRun isDigit rest
      else ([], c :: rest)

/-- Digits that begin with one. -/
def digits? (isDigit : Char → Bool) (s : List Char) : Option (List Char × List Char) :=
  if s.head?.any isDigit then some (digitRun isDigit s) else none

/-- A whole number of 64 bits. -/
def whole? (n : Int) : Option Data :=
  if -0x8000000000000000 ≤ n ∧ n ≤ 0x7FFFFFFFFFFFFFFF then some (.whole n) else none

/-- A whole number in base `base`, behind its mark. -/
def based (base : Nat) (isDigit : Char → Bool) (s : List Char) : Option (Data × List Char) := do
  let (ds, rest) ← digits? isDigit s
  let n ← whole? ((ds.foldl (fun n c => n * base + hexDigitValue c) 0 : Nat) : Int)
  some (n, rest)

/-- The exponent of a real number, if it has one. -/
def exponent (s : List Char) : Option (Option Int × List Char) :=
  match s with
  | c :: rest =>
      if c = 'e' ∨ c = 'E' then do
        let (negative, rest) := Binary64.takeSign rest
        let (ds, rest) ← digits? Char.isDigit rest
        let n : Int := ofDigits ds
        some (some (if negative then -n else n), rest)
      else some (none, s)
  | [] => some (none, s)

/-- The digits behind the point of a real number, if it has one. -/
def fraction : List Char → Option (Option (List Char) × List Char)
  | '.' :: rest => (digits? Char.isDigit rest).map fun r => (some r.1, r.2)
  | s => some (none, s)

/-- The digits before a point: a zero alone, or digits that begin with another one. -/
def leadingDigits : List Char → Option (List Char × List Char)
  | '0' :: rest => some (['0'], rest)
  | s => digits? Char.isDigit s

/-- A decimal number behind its sign. A real number must not be too large, though it may be too
small. -/
def decimal (negative : Bool) (s : List Char) : Option (Data × List Char) := do
  let (ds, rest) ← leadingDigits s
  let (part, rest) ← fraction rest
  let (e, rest) ← exponent rest
  if part.isNone && e.isNone then
    let n : Int := ofDigits ds
    let d ← whole? (if negative then -n else n)
    some (d, rest)
  else
    let part := part.getD []
    match Binary64.ofDecimal negative (ofDigits (ds ++ part)) (e.getD 0 - part.length) with
    | .infinite false => none
    | x => some (.real x, rest)

/-- A number. -/
def number (s : List Char) : Option (Data × List Char) :=
  match s with
  | '0' :: 'x' :: rest => based 16 isHexDigit rest
  | '0' :: 'o' :: rest => based 8 (fun c => '0' ≤ c && c ≤ '7') rest
  | '0' :: 'b' :: rest => based 2 (fun c => c == '0' || c == '1') rest
  | _ =>
      let (negative, rest) := Binary64.takeSign s
      if "inf".toList.isPrefixOf rest then some (.real (.infinite negative), rest.drop 3)
      else if "nan".toList.isPrefixOf rest then some (.real .notANumber, rest.drop 3)
      else decimal negative rest

/-! ### Moments -/

/-- Exactly `width` digits that write a number between `least` and `most`. -/
def field (width least most : Nat) (s : List Char) : Option (List Char × List Char) :=
  let ds := s.take width
  if ds.length = width ∧ ds.all Char.isDigit ∧ least ≤ ofDigits ds ∧ ofDigits ds ≤ most then
    some (ds, s.drop width)
  else none

/-- One given character. -/
def mark (c : Char) : List Char → Option (List Char)
  | [] => none
  | d :: rest => if d = c then some rest else none

/-- A day that exists. -/
def date (s : List Char) : Option (List Char × List Char) := do
  let (year, s) ← field 4 0 9999 s
  let s ← mark '-' s
  let (month, s) ← field 2 1 12 s
  let s ← mark '-' s
  let (day, s) ← field 2 1 (Calendar.daysIn (ofDigits year) (ofDigits month)) s
  some (year ++ '-' :: month ++ '-' :: day, s)

/-- A fraction of a second: nine digits of it, without zeros at its end. -/
def second : List Char → List Char × List Char
  | '.' :: rest =>
      let ds := rest.takeWhile Char.isDigit
      if ds.isEmpty then ([], '.' :: rest)
      else
        let kept := ((ds.take 9).reverse.dropWhile (· == '0')).reverse
        (if kept.isEmpty then [] else '.' :: kept, rest.drop ds.length)
  | s => ([], s)

/-- A time of day. A minute may have a leap second. -/
def time (s : List Char) : Option (List Char × List Char) := do
  let (hours, s) ← field 2 0 23 s
  let s ← mark ':' s
  let (minutes, s) ← field 2 0 59 s
  let s ← mark ':' s
  let (seconds, s) ← field 2 0 60 s
  let (part, s) := second s
  some (hours ++ ':' :: minutes ++ ':' :: seconds ++ part, s)

/-- The offset of a time, empty when there is none. No offset is negative zero. -/
def offset (s : List Char) : Option (List Char × List Char) :=
  match s with
  | 'Z' :: rest => some (['Z'], rest)
  | 'z' :: rest => some (['Z'], rest)
  | c :: rest =>
      if c = '+' ∨ c = '-' then do
        let (hours, rest) ← field 2 0 23 rest
        let rest ← mark ':' rest
        let (minutes, rest) ← field 2 0 59 rest
        let sign := if ofDigits hours = 0 ∧ ofDigits minutes = 0 then '+' else c
        some (sign :: hours ++ ':' :: minutes, rest)
      else some ([], s)
  | [] => some ([], s)

/-- A time with its offset behind a date, and the mark between them. -/
def timeAfterDate : List Char → Option (List Char × List Char)
  | c :: rest =>
      if c = 'T' ∨ c = 't' ∨ c = ' ' then do
        let (clock, rest) ← time rest
        let (zone, rest) ← offset rest
        some ('T' :: clock ++ zone, rest)
      else none
  | [] => none

/-- A date, a time or both. -/
def moment (s : List Char) : Option (Data × List Char) :=
  let found : Option (List Char × List Char) :=
    match date s with
    | some (day, rest) =>
        match timeAfterDate rest with
        | some (clock, rest) => some (day ++ clock, rest)
        | none => some (day, rest)
    | none => time s
  found.map fun r => (.moment (String.ofList r.1), r.2)

/-- A value that holds no others. -/
def scalar (s : List Char) : Option (Data × List Char) :=
  match s with
  | '"' :: rest => (quoted '"' rest).map fun r => (.text r.1, r.2)
  | '\'' :: rest => (quoted '\'' rest).map fun r => (.text r.1, r.2)
  | _ =>
      if "true".toList.isPrefixOf s then some (.bool true, s.drop 4)
      else if "false".toList.isPrefixOf s then some (.bool false, s.drop 5)
      else (moment s).or (number s)

end RowAccess.Data.Toml
