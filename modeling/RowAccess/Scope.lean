import RowAccess.Pattern.Matcher
import RowAccess.Source
import RowAccess.Text.Quoted
import RowAccess.Token

/-!
# Scopes

A scope holds clearances and permissions of its own. It lies within its parent, and sees what its parent
sees: nothing that is held further out can be taken away further in. The scopes that a scope sees are
its lineage, itself first and the root last.

A scope's revision counts the changes of its own clearances and permissions. The time of the last change
is left out, since nothing is decided by it. So is the identity that a scope is given at random: its serial
number stands for it, also in paths, on the assumption that no identity is given twice.
-/

namespace RowAccess

/-- The serial numbers of a scope and of those around it, from the scope out to the root. -/
abbrev ScopePath := List Nat

structure Scope where
  serial : Nat
  parent : Option Nat
  path : ScopePath
  accessor : Option String
  clearances : TokenTable
  granted : List String
  denied : List String
  revision : Nat
deriving Repr, DecidableEq

namespace Scope

/-- The number of the root. -/
def rootSerial : Nat := 0

/-- The scope around all others. -/
def root : Scope := ⟨rootSerial, none, [rootSerial], none, [], [], [], 0⟩

/-- A new scope within another. -/
def within (parent : Scope) (serial : Nat) : Scope :=
  ⟨serial, some parent.serial, serial :: parent.path, none, [], [], [], 0⟩

def isRoot (s : Scope) : Bool := s.serial == rootSerial

/-- The path as serial numbers from the root in. -/
def ids (s : Scope) : List Nat := s.path.reverse

/-- Serial numbers with slashes between them. -/
def pathText (s : Scope) : String :=
  "/".intercalate (s.ids.map fun n => String.ofList (Number.digits n))

def description (s : Scope) : String :=
  "SecurityScope \x7b path: " ++ String.ofList (Text.quoted s.pathText.toList) ++
    ", is_default: " ++ (if s.isRoot then "true" else "false") ++
    ", revision: " ++ String.ofList (Number.digits s.revision) ++ " \x7d"

/-! ### Changes -/

/-- Counts a change. -/
def touch (s : Scope) : Scope := { s with revision := s.revision + 1 }

/-- Adds tokens to a dimension. The dimension is recorded even without tokens, but only a token that
was not held counts as a change. -/
def addClearances (s : Scope) (dimension : String) (tokens : List String) : Scope :=
  let changed := { s with clearances := s.clearances.add dimension tokens }
  if tokens.all (s.clearances.tokens dimension).contains then changed else changed.touch

/-- Adds patterns of permissions, each of them once. All of them must be patterns, or nothing is added;
a call with any pattern counts as a change. -/
def addPermissions (s : Scope) (m : Matcher) (granted denied : List String) : Except Fault Scope :=
  match (granted ++ denied).findSome? m.fault? with
  | some f => .error f
  | none =>
      if granted.isEmpty && denied.isEmpty then .ok s
      else
        .ok { s with
          granted := granted.foldl TokenTable.withToken s.granted
          denied := denied.foldl TokenTable.withToken s.denied
          revision := s.revision + 1 }

/-- Permission tokens as granted patterns and denied ones, which have an exclamation mark before
them. -/
def splitPermissions (tokens : List String) : List String × List String :=
  tokens.foldr
    (fun token (granted, denied) =>
      match token.toList with
      | '!' :: rest => (granted, String.ofList rest :: denied)
      | _ => (token :: granted, denied))
    ([], [])

/-! ### What a lineage holds -/

/-- The members of lists in order, each of them once. -/
def distinct (lists : List (List String)) : List String :=
  lists.flatten.foldl TokenTable.withToken []

/-- The tokens held in a dimension, those of the root first. -/
def effectiveClearances (lineage : List Scope) (dimension : String) : List String :=
  distinct (lineage.reverse.map fun s => s.clearances.tokens dimension)

/-- The dimensions with clearances. -/
def effectiveDimensions (lineage : List Scope) : List String :=
  distinct (lineage.map fun s => s.clearances.dimensions)

/-- The name that was set nearest. -/
def effectiveAccessor (lineage : List Scope) : Option String := lineage.findSome? Scope.accessor

def effectiveGranted (lineage : List Scope) : List String := distinct (lineage.map Scope.granted)

def effectiveDenied (lineage : List Scope) : List String := distinct (lineage.map Scope.denied)

/-- The granted patterns that are not denied word for word. -/
def effectivePermissions (lineage : List Scope) : List String :=
  (effectiveGranted lineage).filter fun p => !(effectiveDenied lineage).contains p

/-- Whether a granted pattern matches a name and no denied one does. -/
def isPermitted (m : Matcher) (lineage : List Scope) (name : String) : Bool :=
  (effectiveGranted lineage).any (m.isMatch · name) &&
    !(effectiveDenied lineage).any (m.isMatch · name)

end Scope

end RowAccess
