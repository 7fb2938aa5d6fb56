import RowAccess.Scope

/-!
# The stack of scopes

The stack keeps every scope that was ever made, by its serial number, and the paths of those that are
entered. Each line of execution has a place in the tree of scopes: the path of the scope that it entered
last, or none. Its current scope is the nearest entered one at or around that place, or the root.

The epoch counts all changes: scopes entered and left, and changes of scopes. Together with the number
of the current scope it is the version of the clearances that the stack reports.

An application has one stack. Its identity, given at random, is left out: a place belongs to this stack,
and as a source it is `SourceId.stack`, which is assumed to be the identity of no other source.
-/

namespace RowAccess

/-- Where a line of execution is. -/
abbrev Place := Option ScopePath

structure ScopeStack where
  matcher : Matcher
  /-- Scopes by their serial numbers. -/
  scopes : List Scope
  /-- The paths of the scopes that are entered. -/
  entered : List ScopePath
  /-- The scopes whose guards were used. -/
  left : List Nat
  epoch : Nat

namespace ScopeStack

def new (m : Matcher) : ScopeStack := ⟨m, [.root], [], [], 0⟩

def scope? (t : ScopeStack) (serial : Nat) : Option Scope := t.scopes[serial]?

/-- The scope with a number; where there is none, the root in its first state. -/
def scope (t : ScopeStack) (serial : Nat) : Scope := (t.scope? serial).getD .root

def setScope (t : ScopeStack) (serial : Nat) (s : Scope) : ScopeStack :=
  { t with scopes := t.scopes.set serial s }

/-! ### Places -/

/-- The number of the nearest entered scope on a path, or of the root. -/
def nearest (t : ScopeStack) : ScopePath → Nat
  | [] => Scope.rootSerial
  | serial :: outer => if t.entered.contains (serial :: outer) then serial else nearest t outer

/-- The number of the current scope of a place. -/
def current (t : ScopeStack) : Place → Nat
  | none => Scope.rootSerial
  | some path => t.nearest path

/-- A scope and those around it, itself first. -/
def lineage (t : ScopeStack) (serial : Nat) : List Scope :=
  match t.scope? serial with
  | none => []
  | some s =>
      match s.parent with
      | none => [s]
      | some p => if _ : p < serial then s :: lineage t p else [s]

/-- How many scopes are entered. -/
def depth (t : ScopeStack) : Nat := t.entered.length

/-- Makes a scope within the current one and goes there. -/
def enter (t : ScopeStack) (place : Place) : ScopeStack × Place × Nat :=
  let serial := t.scopes.length
  let s := Scope.within (t.scope (t.current place)) serial
  ({ t with
      scopes := t.scopes ++ [s]
      entered := t.entered ++ [s.path]
      epoch := t.epoch + 1 },
    some s.path, serial)

/-- The place where a line of execution is after a scope was left. -/
def placeAfter (s : Scope) (place : Place) : Place :=
  if place = some s.path then
    if s.parent.all (· == Scope.rootSerial) then none else some s.path.tail
  else place

/-- Uses the guard of a scope: leaves it, unless that was done before. Only the line of execution that
uses the guard moves, and only if it is in that very scope. -/
def exit (t : ScopeStack) (place : Place) (serial : Nat) : ScopeStack × Place :=
  match t.scope? serial with
  | none => (t, place)
  | some s =>
      if s.isRoot || t.left.contains serial then (t, place)
      else
        ({ t with
            entered := t.entered.filter fun path => path != s.path
            left := t.left ++ [serial]
            epoch := t.epoch + 1 },
          placeAfter s place)

/-! ### Changes of scopes -/

/-- Puts a changed scope in its place. The epoch moves as far as its revision does; a number without a
scope changes nothing. -/
def update (t : ScopeStack) (serial : Nat) (s : Scope) : ScopeStack :=
  let changed := t.setScope serial s
  { changed with
    epoch := t.epoch + ((changed.scope serial).revision - (t.scope serial).revision) }

def setAccessor (t : ScopeStack) (serial : Nat) (name : String) : ScopeStack :=
  t.update serial { t.scope serial with accessor := some name }

def addClearances (t : ScopeStack) (serial : Nat) (dimension : String) (tokens : List String) :
    ScopeStack :=
  t.update serial ((t.scope serial).addClearances dimension tokens)

/-- Adds lists of tokens by dimension, one after another. -/
def addClearanceLists (t : ScopeStack) (serial : Nat) (lists : List (String × String)) : ScopeStack :=
  lists.foldl (fun t e => t.addClearances serial e.1 (splitTokenList e.2)) t

def insertPermissions (t : ScopeStack) (serial : Nat) (granted denied : List String) :
    Except Fault ScopeStack := do
  return t.update serial (← (t.scope serial).addPermissions t.matcher granted denied)

/-- Adds permission tokens. -/
def addPermissions (t : ScopeStack) (serial : Nat) (tokens : List String) : Except Fault ScopeStack :=
  let (granted, denied) := Scope.splitPermissions tokens
  t.insertPermissions serial granted denied

/-- Adds patterns of denied permissions. -/
def addDenied (t : ScopeStack) (serial : Nat) (patterns : List String) : Except Fault ScopeStack :=
  t.insertPermissions serial [] patterns

/-! ### The stack as a source -/

/-- The tokens that the scope with a number holds, those around it included. -/
def effectiveClearances (t : ScopeStack) (serial : Nat) (dimension : String) : List String :=
  Scope.effectiveClearances (t.lineage serial) dimension

/-- The version of the clearances at a place. -/
def version (t : ScopeStack) (place : Place) : Version := ⟨t.current place, t.epoch⟩

/-- The clearances at a place as a source. -/
def view (t : ScopeStack) (place : Place) : SourceView :=
  ⟨.stack, some (t.version place), t.effectiveClearances (t.current place)⟩

/-- The accessor of the scope with a number. -/
def accessor (t : ScopeStack) (serial : Nat) : Option String :=
  Scope.effectiveAccessor (t.lineage serial)

/-- Whether a name is permitted in the scope with a number. -/
def isPermitted (t : ScopeStack) (serial : Nat) (name : String) : Bool :=
  Scope.isPermitted t.matcher (t.lineage serial) name

/-- What a stack looks like from outside. -/
def description (t : ScopeStack) : String :=
  "ScopeStack \x7b id: <stack>, active_scopes: " ++ String.ofList (Number.digits t.depth) ++ " \x7d"

end ScopeStack

end RowAccess
