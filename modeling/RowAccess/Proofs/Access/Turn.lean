import Mathlib.Data.List.Basic
import Mathlib.Tactic.Common
import RowAccess.Proofs.Access.Evolution
import RowAccess.Proofs.Registry.Classify

/-!
# Runs as one line sees them

The numbers of scopes and tables depend on what all lines do, so a line names them by the places that they
have in a list: those that it was given at the start, then those that it made, in order. `Turn` is a step of
a run from the point of view of one line; `Access.spelled` is the ordinary run that comes of it, with numbers
for names, and `Access.heard` is what the line is answered there, without the numbers and objects that no
line should depend on.
-/

namespace RowAccess

/-- What a line can name: the scopes and the tables that it knows, by their numbers. -/
structure Names where
  scopes : List Nat
  tables : List Nat

namespace Names

/-- The number of a scope by its place; the root's where the list is too short. -/
def scope (known : Names) (place : Nat) : Nat := (known.scopes[place]?).getD Scope.rootSerial

def ref (known : Names) : ScopeRef → ScopeRef
  | .current => .current
  | .numbered place => .numbered (known.scope place)

/-- A source with the number of its table for its place; the stack where the list is too short. -/
def source (known : Names) : SourceRef → SourceRef
  | .stack => .stack
  | .made place => ((known.tables[place]?).map SourceRef.made).getD .stack

/-- A change of a table by its place; a change of nothing where the list is too short. -/
def change (known : Names) (place : Nat) (change : SourceChange) : Action :=
  ((known.tables[place]?).map (Action.changeSource · change)).getD (.addClearanceLists .current [])

end Names

/-- An action with numbers for places. -/
def Action.spell (known : Names) : Action → Action
  | exit place => exit (known.scope place)
  | setAccessor ref name => setAccessor (known.ref ref) name
  | addClearances ref dimension tokens => addClearances (known.ref ref) dimension tokens
  | addClearanceLists ref lists => addClearanceLists (known.ref ref) lists
  | addPermissions ref tokens => addPermissions (known.ref ref) tokens
  | addDenied ref patterns => addDenied (known.ref ref) patterns
  | changeSource place change => known.change place change
  | setStandardSource s => setStandardSource (known.source s)
  | ownRestriction s entity => ownRestriction (s.map known.source) entity
  | inclusiveRestriction s entity => inclusiveRestriction (s.map known.source) entity
  | filter s entity rows => filter (s.map known.source) entity rows
  | clearances ref dimension => clearances (known.ref ref) dimension
  | accessor ref => accessor (known.ref ref)
  | isPermitted ref name => isPermitted (known.ref ref) name
  | action => action

/-- A restriction whatever object it is. -/
def Restriction.plain : Restriction → Restriction
  | unrestricted => unrestricted
  | restricted _ p => restricted openSerial p

/-- An answer without the numbers of what was made, and without what is kept or which object it is. -/
def Answer.plain : Answer → Answer
  | builder b => builder b.emptied
  | restriction x => restriction x.plain
  | scope _ => scope Scope.rootSerial
  | source _ => source 0
  | line _ => line 0
  | answer => answer

/-- A step of the line in question, with scopes and tables by their places, or a step of another line. -/
inductive Turn
  | own (action : Action)
  | other (line : Nat) (action : Action)

def Turn.isOwn : Turn → Bool
  | own _ => true
  | other _ _ => false

/-- What a line knows after an action of its own. -/
def Names.learn (known : Names) (a : Access) : Action → Names
  | .enter => { known with scopes := known.scopes ++ [a.stack.scopes.length] }
  | .addSource _ => { known with tables := known.tables ++ [a.sources.length] }
  | _ => known

namespace Access

variable {a : Access} {line l : Nat} {known : Names} {action : Action} {rest : List Turn}

/-- The run of some turns. -/
def spelled (a : Access) (line : Nat) (known : Names) : List Turn → List (Nat × Action)
  | [] => []
  | .own action :: rest =>
      (line, action.spell known) ::
        (a.perform line (action.spell known)).1.spelled line (known.learn a action) rest
  | .other l action :: rest => (l, action) :: (a.perform l action).1.spelled line known rest

/-- What the line is answered in the run of some turns. -/
def heard (a : Access) (line : Nat) (known : Names) (turns : List Turn) :
    List (Except Fault Answer) :=
  let acts := a.spelled line known turns
  ((acts.zip (a.run acts).2).filter fun x => x.1.1 == line).map fun x => x.2.map Answer.plain

theorem heard_own :
    a.heard line known (.own action :: rest) =
      (a.perform line (action.spell known)).2.map Answer.plain ::
        (a.perform line (action.spell known)).1.heard line (known.learn a action) rest := by
  simp only [heard, spelled, run, List.zip_cons_cons]
  rw [List.filter_cons_of_pos (by simp), List.map_cons]

theorem heard_other (h : l ≠ line) :
    a.heard line known (.other l action :: rest) = (a.perform l action).1.heard line known rest := by
  simp only [heard, spelled, run, List.zip_cons_cons]
  rw [List.filter_cons_of_neg (by simpa using h)]

end Access

/-! ### What others leave alone -/

/-- What a line depends on: the scopes that it sees, those that it is inside, and the tables that it uses. -/
structure Reach where
  seen : List Nat
  inside : List Nat
  tables : List Nat

/-- What a line depends on after an action of its own: what it made as well. -/
def Reach.grow (x : Reach) (a : Access) : Action → Reach
  | .enter =>
      { x with
        seen := x.seen ++ [a.stack.scopes.length]
        inside := x.inside ++ [a.stack.scopes.length] }
  | .addSource _ => { x with tables := x.tables ++ [a.sources.length] }
  | _ => x

namespace Access

/-- The scopes that a line is in: those on the path of its place, and the root. -/
def standing (a : Access) (line : Nat) : List Nat := Scope.rootSerial :: (a.place line).getD []

/-- The table that requests use where they name no source. -/
def standardTables (a : Access) : List Nat :=
  match a.registry.source with
  | some (.made n) => [n]
  | _ => []

/-- What a line depends on: the scopes that it is in and those that it knows, with all scopes around them,
and the tables that it knows. -/
def reach (a : Access) (line : Nat) (known : Names) : Reach where
  seen := (a.standing line ++ known.scopes).flatMap fun n => (a.stack.lineage n).map Scope.serial
  inside := a.standing line
  tables := a.standardTables ++ known.tables

/-- What another line may do: enter scopes, leave those that the line in question is not inside, change
scopes that it does not see, add tables and change those that it does not use, and ask for anything; but not
describe types, classify fields, or change the standard source. -/
def Spares (a : Access) (l : Nat) (x : Reach) : Action → Prop
  | .register _ => False
  | .classify _ _ _ => False
  | .configure _ => False
  | .setStandardSource _ => False
  | .exit serial => serial ∉ x.inside
  | .setAccessor ref _ => a.resolveScope l ref ∉ x.seen
  | .addClearances ref _ _ => a.resolveScope l ref ∉ x.seen
  | .addClearanceLists ref _ => a.resolveScope l ref ∉ x.seen
  | .addPermissions ref _ => a.resolveScope l ref ∉ x.seen
  | .addDenied ref _ => a.resolveScope l ref ∉ x.seen
  | .changeSource n _ => n ∉ x.tables
  | _ => True

/-- Turns in which no type is described, and other lines spare what the line depends on. -/
def Undisturbed (a : Access) (line : Nat) (x : Reach) (known : Names) : List Turn → Prop
  | [] => True
  | .own action :: rest =>
      (∀ s, action ≠ .register s) ∧
        (a.perform line (action.spell known)).1.Undisturbed line (x.grow a action)
          (known.learn a action) rest
  | .other l action :: rest =>
      l ≠ line ∧ a.Spares l x action ∧ (a.perform l action).1.Undisturbed line x known rest

end Access

end RowAccess
