import RowAccess.Access

/-!
# Runs

An action is one thing that a line of execution does to the access control, or asks of it. `perform`
gives its answer and the state after it; an action that fails may have changed the state before it
failed. A run is a list of actions with the lines that do them, so that every interleaving of several
lines is a run. No other line does anything while an action is done: locks, and what a request may read
while another line changes it, are left out.
-/

namespace RowAccess

/-- A scope: the current one of the line, or one by its number. -/
inductive ScopeRef
  | current
  | numbered (serial : Nat)
deriving Repr, DecidableEq

/-- A change of a table that is a source. -/
inductive SourceChange
  | add (dimension token : String)
  | clear (dimension : String)
  | set (dimension : String) (tokens : List String)
  | setVersion (version : Option Version)
deriving Repr, DecidableEq

def SourceChange.apply : SourceChange → Source → Source
  | add dimension token => Source.add dimension token
  | clear dimension => Source.clear dimension
  | set dimension tokens => Source.set dimension tokens
  | setVersion version => Source.setVersion version

inductive Action
  /-- Describes a type, or describes it anew. -/
  | register (s : Schema)
  | classify (entity field dimension : String)
  | builder (entity : String)
  | enter
  /-- Uses the guard of a scope. -/
  | exit (serial : Nat)
  | setAccessor (ref : ScopeRef) (name : String)
  | addClearances (ref : ScopeRef) (dimension : String) (tokens : List String)
  | addClearanceLists (ref : ScopeRef) (lists : List (String × String))
  | addPermissions (ref : ScopeRef) (tokens : List String)
  | addDenied (ref : ScopeRef) (patterns : List String)
  | configure (c : Config)
  | addSource (s : Source)
  | changeSource (n : Nat) (change : SourceChange)
  | setStandardSource (s : SourceRef)
  | ownRestriction (source : Option SourceRef) (entity : String)
  | inclusiveRestriction (source : Option SourceRef) (entity : String)
  /-- Which of some rows of a type are to be seen. -/
  | filter (source : Option SourceRef) (entity : String) (rows : List Row)
  | clearances (ref : ScopeRef) (dimension : String)
  | accessor (ref : ScopeRef)
  | isPermitted (ref : ScopeRef) (name : String)
  /-- Starts a line of execution, at the place of this one or at the root. -/
  | branch (inherits : Bool)

inductive Answer
  | done
  | builder (b : Builder)
  | restriction (x : Restriction)
  | rows (rows : List Row)
  | tokens (tokens : List String)
  | accessor (name : Option String)
  | flag (b : Bool)
  /-- The number of a new scope. -/
  | scope (serial : Nat)
  /-- The number of a new source. -/
  | source (n : Nat)
  /-- The number of a new line of execution. -/
  | line (n : Nat)

namespace Access

/-- The number of a scope that an action means. -/
def resolveScope (a : Access) (line : Nat) : ScopeRef → Nat
  | .current => a.current line
  | .numbered serial => serial

/-- A change of the stack that may fail and then changes nothing. -/
def changeStack (a : Access) (result : Except Fault ScopeStack) : Access × Except Fault Answer :=
  match result with
  | .ok stack => ({ a with stack }, .ok .done)
  | .error f => (a, .error f)

/-- What a line of execution does. -/
def perform (a : Access) (line : Nat) : Action → Access × Except Fault Answer
  | .register s => ({ a with registry := a.registry.registerSchema s }, .ok .done)
  | .classify entity field dimension =>
      let (registry, result) := a.registry.classify entity field dimension
      ({ a with registry }, result.map fun _ => .done)
  | .builder entity =>
      let (registry, result) := a.registry.get entity
      ({ a with registry }, result.map .builder)
  | .enter =>
      let (stack, place, serial) := a.stack.enter (a.place line)
      (({ a with stack }).setPlace line place, .ok (.scope serial))
  | .exit serial =>
      let (stack, place) := a.stack.exit (a.place line) serial
      (({ a with stack }).setPlace line place, .ok .done)
  | .setAccessor ref name => a.changeStack (.ok (a.stack.setAccessor (a.resolveScope line ref) name))
  | .addClearances ref dimension tokens =>
      a.changeStack (.ok (a.stack.addClearances (a.resolveScope line ref) dimension tokens))
  | .addClearanceLists ref lists =>
      a.changeStack (.ok (a.stack.addClearanceLists (a.resolveScope line ref) lists))
  | .addPermissions ref tokens =>
      a.changeStack (a.stack.addPermissions (a.resolveScope line ref) tokens)
  | .addDenied ref patterns => a.changeStack (a.stack.addDenied (a.resolveScope line ref) patterns)
  | .configure c =>
      let (a, result) := a.configure c
      (a, result.map fun _ => .done)
  | .addSource s =>
      let (a, n) := a.addSource s
      (a, .ok (.source n))
  | .changeSource n change => (a.changeSource n change.apply, .ok .done)
  | .setStandardSource s =>
      ({ a with registry := { a.registry with source := some s } }, .ok .done)
  | .ownRestriction source entity =>
      let (a, result) := a.ownRestriction line source entity
      (a, result.map .restriction)
  | .inclusiveRestriction source entity =>
      let (a, result) := a.inclusiveRestriction line source entity
      (a, result.map .restriction)
  | .filter source entity rows =>
      let (a, result) := a.inclusiveRestriction line source entity
      (a, result.map fun x => .rows (filterRows x id rows))
  | .clearances ref dimension =>
      (a, .ok (.tokens (a.stack.effectiveClearances (a.resolveScope line ref) dimension)))
  | .accessor ref => (a, .ok (.accessor (a.stack.accessor (a.resolveScope line ref))))
  | .isPermitted ref name =>
      (a, .ok (.flag (a.stack.isPermitted (a.resolveScope line ref) name)))
  | .branch inherits =>
      let (a, n) := a.branch line inherits
      (a, .ok (.line n))

/-- The answers of a run, and the state after it. -/
def run (a : Access) : List (Nat × Action) → Access × List (Except Fault Answer)
  | [] => (a, [])
  | (line, action) :: rest =>
      let (a, answer) := a.perform line action
      let (a, answers) := run a rest
      (a, answer :: answers)

end Access

end RowAccess
