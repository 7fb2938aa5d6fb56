import RowAccess.Number.Digits
import RowAccess.Text.Split

/-!
# Universally unique identifiers

An identifier is 32 hexadecimal digits. It is written in five groups, in lower case, and read in that
form, with or without braces or the name space of identifiers before it, or as digits alone.
-/

namespace RowAccess

/-- Thirty-two hexadecimal digits. -/
structure Uuid where
  digits : List (Fin 16)
  length_digits : digits.length = 32
deriving DecidableEq

namespace Uuid

/-- Why a text is no identifier. Lengths and places are counted in bytes of UTF-8. -/
inductive Fault
  | length (found : Nat)
  | character (found : Char) (place : Nat)
  | groupCount (found : Nat)
  | groupLength (group expected found : Nat)
deriving Repr, DecidableEq

def Fault.reason : Fault → String
  | length found => "invalid length: found " ++ toString found
  | character found place =>
      "invalid character: found `" ++ String.singleton found ++ "` at " ++ toString place
  | groupCount found => "invalid group count: expected 5, found " ++ toString found
  | groupLength group expected found =>
      "invalid group length in group " ++ toString group ++ ": expected " ++ toString expected ++
        ", found " ++ toString found

def hexDigit? (c : Char) : Option (Fin 16) :=
  let n := c.toNat
  if h : 48 ≤ n ∧ n ≤ 57 then some ⟨n - 48, by omega⟩
  else if h : 97 ≤ n ∧ n ≤ 102 then some ⟨n - 87, by omega⟩
  else if h : 65 ≤ n ∧ n ≤ 70 then some ⟨n - 55, by omega⟩
  else none

/-- A digit in lower case. -/
def hexChar (d : Fin 16) : Char := Char.ofNat (if d.val < 10 then 48 + d.val else 87 + d.val)

def groupLengths : List Nat := [8, 4, 4, 4, 12]

/-- The digits of a text, if it holds nothing else. -/
def digits? : List Char → Option (List (Fin 16))
  | [] => some []
  | c :: rest =>
      match hexDigit? c, digits? rest with
      | some d, some ds => some (d :: ds)
      | _, _ => none

/-- Cuts a text at its hyphens. -/
def groups (s : List Char) : List (List Char) := Text.splitAtEvery (· == '-') s

def ofDigits? (ds : List (Fin 16)) : Option Uuid :=
  if h : ds.length = 32 then some ⟨ds, h⟩ else none

/-- Reads five groups of the right lengths. -/
def ofGroups? (s : List Char) : Option Uuid :=
  let gs := groups s
  if gs.map List.length = groupLengths then (digits? gs.flatten).bind ofDigits? else none

def mostBytes : Nat := 45

/-- The bytes of a text in UTF-8. -/
def byteCount (s : List Char) : Nat := s.foldl (fun n c => n + c.utf8Size) 0

/-- How the groups of a text are wrapped. -/
inductive Wrapping
  | bare
  | braced
  | named
deriving Repr, DecidableEq

/-- The bytes before and behind the groups. -/
def Wrapping.bytes : Wrapping → Nat × Nat
  | bare => (0, 0)
  | braced => (1, 1)
  | named => (9, 0)

/-- A text without its braces or the name space before it. -/
def unwrap (s : List Char) : Wrapping × List Char :=
  match s with
  | '\x7b' :: rest =>
      if rest.getLast? = some '\x7d' then (.braced, rest.dropLast) else (.bare, s)
  | _ =>
      if (s.take 9).map Char.toLower = "urn:uuid:".toList then (.named, s.drop 9) else (.bare, s)

/-- The first character that is neither a digit nor a hyphen. -/
def stranger? : Nat → List Char → Option (Char × Nat)
  | _, [] => none
  | place, c :: rest =>
      if c = '-' ∨ (hexDigit? c).isSome then stranger? (place + 1) rest else some (c, place)

/-- The fault of the first group of a wrong length. The last group is taken to reach to the end, with
what wraps the groups. -/
def groupFault (rest : Nat) : Nat → List Nat → List Nat → Fault
  | i, e :: e' :: es, f :: fs =>
      if e = f then groupFault (rest - e - 1) (i + 1) (e' :: es) fs else .groupLength i e f
  | i, [e], _ => .groupLength i e rest
  | _, _, _ => .length rest

/-- The fault of a text `s` that has `total` bytes and starts at a place. -/
def groupsFault (total place : Nat) (s : List Char) : Fault :=
  match stranger? place s with
  | some (c, place) => .character c place
  | none =>
      let lengths := (groups s).map List.length
      if lengths.length ≠ groupLengths.length then .groupCount lengths.length
      else groupFault total 0 groupLengths lengths

/-- The bytes of five groups with their hyphens. -/
def groupBytes : Nat := 36

/-- What is wrong with a text that is no identifier. A text of the size of the groups is not unwrapped.
Where what is wrapped has that size, its places are counted from its start. -/
def faultOf (s : List Char) : Fault :=
  let total := byteCount s
  let (wrapping, body) := unwrap s
  let (before, behind) := wrapping.bytes
  if mostBytes < total then .length total
  else if total = groupBytes then groupsFault total 0 s
  else if total = before + groupBytes + behind then groupsFault groupBytes 0 body
  else if wrapping = .bare ∧ (digits? body).isSome then .length total
  else groupsFault total before body

/-- Reads an identifier. -/
def read? (s : List Char) : Except Fault Uuid :=
  let (wrapping, body) := unwrap s
  let found :=
    match ofGroups? body with
    | some u => some u
    | none => if wrapping = .bare then (digits? body).bind ofDigits? else none
  match found with
  | some u => .ok u
  | none => .error (faultOf s)

/-- The groups of the digits, with hyphens between them. -/
def text (u : Uuid) : List Char :=
  let cs := u.digits.map hexChar
  cs.take 8 ++ '-' :: (cs.drop 8).take 4 ++ '-' :: (cs.drop 12).take 4 ++
    '-' :: (cs.drop 16).take 4 ++ '-' :: cs.drop 20

/-- The last `k` hexadecimal digits of a number. -/
def hexDigits : Nat → Nat → List (Fin 16)
  | 0, _ => []
  | k + 1, n => hexDigits k (n / 16) ++ [⟨n % 16, Nat.mod_lt _ (by decide)⟩]

theorem length_hexDigits (k n : Nat) : (hexDigits k n).length = k := by
  induction k generalizing n with
  | zero => rfl
  | succ k ih => simp [hexDigits, ih]

/-- The identifier that is the number `n` in 128 bits. -/
def ofNat (n : Nat) : Uuid := ⟨hexDigits 32 n, length_hexDigits 32 n⟩

end Uuid

end RowAccess
