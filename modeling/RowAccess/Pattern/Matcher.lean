import RowAccess.Fault
import RowAccess.Pattern.Glob
import RowAccess.Pattern.Regex.Search
import RowAccess.Pattern.Regex.Size

/-!
# Matchers

Permissions are granted and denied by patterns. A matcher fixes how a pattern is read: as a regular
expression that may match any part of a name, as a glob of the whole name, or as the name itself.

A pattern is read anew for each test. What is read depends on the pattern alone, so a cache of compiled
patterns would change no answer, and none is kept.
-/

namespace RowAccess

open RowAccess.Pattern

/-- How patterns are read. -/
inductive Matcher
  | regex
  | glob
  | exact
deriving Repr, DecidableEq

namespace Matcher

/-- The matcher where none is chosen. -/
def standard : Matcher := regex

def name : Matcher → String
  | regex => "regex"
  | glob => "glob"
  | exact => "exact"

def all : List Matcher := [regex, glob, exact]

def ofName? (s : String) : Option Matcher := all.find? fun m => m.name = s

/-- Reads a pattern as a test of names, or tells why it cannot be read. -/
def test? (m : Matcher) (pattern : String) : Except String (String → Bool) :=
  match m with
  | regex =>
      match Regex.Expr.read? pattern.toList with
      | .ok e => .ok fun name => e.matchesIn name.toList
      | .error f => .error f.reason
  | glob =>
      match Glob.read? pattern.toList with
      | .ok g => .ok fun name => Glob.isMatch g name.toList
      | .error f => .error f.reason
  | exact => .ok (pattern == ·)

/-- Why a text is no pattern, if it is none. A pattern that is a name is not empty. -/
def objection? (m : Matcher) (pattern : String) : Option String :=
  if m = exact ∧ pattern.isEmpty then some "empty pattern"
  else
    match m.test? pattern with
    | .ok _ => none
    | .error reason => some reason

/-- What is wrong with a text that is no pattern. -/
def fault? (m : Matcher) (pattern : String) : Option Fault :=
  (m.objection? pattern).map (.malformedSelector pattern)

/-- Whether a pattern matches a name. A text that cannot be read as a pattern matches nothing. -/
def isMatch (m : Matcher) (pattern name : String) : Bool :=
  match m.test? pattern with
  | .ok accepts => accepts name
  | .error _ => false

/-- Whether a pattern matches each of the names; it is read once. -/
def matchEach (m : Matcher) (pattern : String) (names : List String) : List Bool :=
  match m.test? pattern with
  | .ok accepts => names.map accepts
  | .error _ => names.map fun _ => false

theorem matchEach_eq_map (m : Matcher) (pattern : String) (names : List String) :
    m.matchEach pattern names = names.map (m.isMatch pattern) := by
  unfold matchEach isMatch
  split <;> simp

end Matcher

end RowAccess
