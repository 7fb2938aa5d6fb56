import RowAccess.Text.Blank
import RowAccess.Text.Split

/-!
# Clearance tokens

A token allows or denies one value, or all values. It is written as the value, with an exclamation
mark before it when it denies, and an asterisk for all values. Blanks around a token do not count.
-/

namespace RowAccess

open RowAccess.Text (trim splitAtEvery)

/-- What a caller holds in one dimension. -/
inductive Token
  | allow (value : String)
  | allowAll
  | deny (value : String)
  | denyAll
deriving Repr, DecidableEq

namespace Token

/-- The mark of a denial. -/
def negationMark : Char := '!'

/-- The text that stands for all values. -/
def wildcard : List Char := ['*']

/-- Reads a token. -/
def parse (raw : String) : Token :=
  let text := trim raw.toList
  match text with
  | '!' :: denied => if denied = wildcard then denyAll else deny (String.ofList denied)
  | _ => if text = wildcard then allowAll else allow (String.ofList text)

def isNegated : Token → Bool
  | deny _ => true
  | denyAll => true
  | _ => false

def isWildcard : Token → Bool
  | allowAll => true
  | denyAll => true
  | _ => false

/-- The one value that a token names. -/
def value? : Token → Option String
  | allow v => some v
  | deny v => some v
  | _ => none

/-- A token as it is written. -/
def display : Token → String
  | allow v => v
  | allowAll => String.ofList wildcard
  | deny v => String.ofList (negationMark :: v.toList)
  | denyAll => String.ofList (negationMark :: wildcard)

end Token

/-- The entries of a list of tokens: what stands between the commas, without blanks around it and
without entries that are empty then. -/
def splitTokenList (list : String) : List String :=
  (((splitAtEvery (· == ',') list.toList).map trim).filter (!·.isEmpty)).map String.ofList

end RowAccess
