import Mathlib.Data.List.Basic
import Mathlib.Tactic.Common
import RowAccess.Access.Run
import RowAccess.Proofs.Scope.Change

/-!
# What an action can do

An action changes the scopes with their places, the registry, or the tables of sources. For each of the
three there is a relation that lists all changes there are; an invariant of runs is shown for these, and
not for every action anew.
-/

namespace RowAccess

/-- A registry in which fields were classified, one after another. -/
inductive Registry.Classifies (r : Registry) : Registry → Prop
  | refl : Classifies r r
  | classify {r' : Registry} (h : Classifies r r') (entity field dimension : String) :
      Classifies r (r'.classify entity field dimension).1

namespace Access

variable {a : Access} {line : Nat} {action : Action}

/-! ### Scopes and places -/

/-- What an action of a line can do to the stack and the places. -/
inductive ScopeStep (a : Access) (line : Nat) : Action → ScopeStack → List Place → Prop
  | kept {action : Action} : ScopeStep a line action a.stack a.places
  | changed {action : Action} {serial : Nat} {t : ScopeStack} (h : a.stack.Changes serial t) :
      ScopeStep a line action t a.places
  | entered :
      ScopeStep a line .enter (a.stack.enter (a.place line)).1
        (a.places.set line (a.stack.enter (a.place line)).2.1)
  | exited (serial : Nat) :
      ScopeStep a line (.exit serial) (a.stack.exit (a.place line) serial).1
        (a.places.set line (a.stack.exit (a.place line) serial).2)
  | branched (inherits : Bool) :
      ScopeStep a line (.branch inherits) a.stack
        (a.places ++ [if inherits then a.place line else none])

/-- A request changes the registry only. -/
theorem request_eq (a : Access) (line : Nat) (source : Option SourceRef)
    (ask : Registry → SourceView → Registry × Except Fault Restriction) :
    (a.request line source ask).1 = { a with registry := (a.request line source ask).1.registry } := by
  unfold request
  cases a.sourceOr source <;> rfl

/-- A request to a source that there is asks the registry with what the line sees of the source. -/
theorem request_of_source {source : Option SourceRef} {s : SourceRef} (hs : a.sourceOr source = .ok s)
    (line : Nat) (ask : Registry → SourceView → Registry × Except Fault Restriction) :
    a.request line source ask =
      ({ a with registry := (ask a.registry (a.view line s)).1 }, (ask a.registry (a.view line s)).2) := by
  simp only [request, hs]

/-! ### Configurations -/

/-- The stack with the name that a configuration gives to the root. -/
def named (a : Access) (c : Config) : ScopeStack :=
  c.accessor.elim a.stack (a.stack.setAccessor Scope.rootSerial)

/-- The stack with the tokens that a configuration gives to the root. -/
def cleared (a : Access) (c : Config) : ScopeStack :=
  (a.named c).addClearanceLists Scope.rootSerial c.clearances.entries

/-- What a configuration does after its check. -/
def configured (a : Access) (c : Config) : Access × Except Fault Unit :=
  match (a.cleared c).addPermissions Scope.rootSerial c.permissions with
  | .error f => ({ a with stack := a.cleared c }, .error f)
  | .ok stack =>
      ({ a with stack, registry := (classifyAll a.registry c.classifications).1 },
        (classifyAll a.registry c.classifications).2)

theorem configure_eq_configured (a : Access) (c : Config) :
    a.configure c = c.check.toOption.elim (a, c.check) fun _ => a.configured c := by
  unfold configure
  cases c.check with
  | error f => rfl
  | ok _ =>
    unfold configured cleared named
    cases c.accessor <;> rfl

theorem changes_named (a : Access) (c : Config) : a.stack.Changes Scope.rootSerial (a.named c) := by
  unfold named
  cases c.accessor with
  | none => exact .refl
  | some name => exact ScopeStack.changes_setAccessor a.stack Scope.rootSerial name

theorem changes_cleared (a : Access) (c : Config) :
    a.stack.Changes Scope.rootSerial (a.cleared c) :=
  (a.changes_named c).trans (ScopeStack.changes_addClearanceLists Scope.rootSerial _ _)

theorem classifies_classifyAll {r : Registry} : ∀ (cs : List Classification) {r' : Registry},
    r.Classifies r' → r.Classifies (classifyAll r' cs).1
  | [], _, h => h
  | c :: rest, r', h => by
      have hstep := h.classify c.entity c.field c.dimension
      unfold classifyAll
      generalize r'.classify c.entity c.field c.dimension = out at hstep
      obtain ⟨r₁, result⟩ := out
      cases result with
      | error f => exact hstep
      | ok _ => exact classifies_classifyAll rest hstep

/-- A configuration changes the root where it stands, and the registry by classifying fields. -/
theorem configure_eq (a : Access) (c : Config) :
    ∃ t r, a.stack.Changes Scope.rootSerial t ∧ a.registry.Classifies r ∧
      (a.configure c).1 = { a with stack := t, registry := r } := by
  rw [configure_eq_configured]
  cases c.check with
  | error f => exact ⟨a.stack, a.registry, .refl, .refl, rfl⟩
  | ok _ =>
    show ∃ t r, _ ∧ _ ∧ (a.configured c).1 = _
    unfold configured
    cases hp : (a.cleared c).addPermissions Scope.rootSerial c.permissions with
    | error f => exact ⟨a.cleared c, a.registry, a.changes_cleared c, .refl, rfl⟩
    | ok t =>
      exact ⟨t, _, (a.changes_cleared c).trans (ScopeStack.changes_addPermissions hp),
        classifies_classifyAll c.classifications .refl, rfl⟩

theorem changeStack_step {result : Except Fault ScopeStack} {serial : Nat}
    (h : ∀ t, result = .ok t → a.stack.Changes serial t) :
    ScopeStep a line action (a.changeStack result).1.stack (a.changeStack result).1.places := by
  cases result with
  | error f => exact .kept
  | ok t => exact .changed (h t rfl)

theorem request_scopes (a : Access) (line : Nat) (source : Option SourceRef)
    (ask : Registry → SourceView → Registry × Except Fault Restriction) :
    ScopeStep a line action (a.request line source ask).1.stack
      (a.request line source ask).1.places := by
  rw [request_eq]
  exact .kept

theorem perform_scopes (a : Access) (line : Nat) (action : Action) :
    ScopeStep a line action (a.perform line action).1.stack (a.perform line action).1.places := by
  cases action with
  | register _ => exact .kept
  | classify _ _ _ => exact .kept
  | builder _ => exact .kept
  | enter => exact .entered
  | exit serial => exact .exited serial
  | setAccessor ref name =>
    exact .changed (ScopeStack.changes_setAccessor a.stack (a.resolveScope line ref) name)
  | addClearances ref dimension tokens =>
    exact .changed (ScopeStack.changes_addClearances a.stack (a.resolveScope line ref) dimension tokens)
  | addClearanceLists ref lists =>
    exact .changed (ScopeStack.changes_addClearanceLists (a.resolveScope line ref) lists a.stack)
  | addPermissions ref tokens =>
    exact changeStack_step fun t ht => ScopeStack.changes_addPermissions ht
  | addDenied ref patterns =>
    exact changeStack_step fun t ht => ScopeStack.changes_insertPermissions ht
  | configure c =>
    obtain ⟨t, r, ht, -, heq⟩ := configure_eq a c
    show ScopeStep a line _ (a.configure c).1.stack (a.configure c).1.places
    rw [heq]
    exact .changed ht
  | addSource _ => exact .kept
  | changeSource _ _ => exact .kept
  | setStandardSource _ => exact .kept
  | ownRestriction source entity =>
    exact request_scopes a line source fun r view => r.ownRestriction view entity
  | inclusiveRestriction source entity =>
    exact request_scopes a line source fun r view => r.inclusiveRestriction view entity
  | filter source entity _ =>
    exact request_scopes a line source fun r view => r.inclusiveRestriction view entity
  | clearances _ _ => exact .kept
  | accessor _ => exact .kept
  | isPermitted _ _ => exact .kept
  | branch inherits => exact .branched inherits

/-! ### The stack as a function of the action -/

theorem changeStack_stack (a : Access) (result : Except Fault ScopeStack) :
    (a.changeStack result).1.stack = result.toOption.getD a.stack := by
  cases result <;> rfl

theorem configured_stack (a : Access) (c : Config) :
    (a.configured c).1.stack =
      ((a.cleared c).addPermissions Scope.rootSerial c.permissions).toOption.getD (a.cleared c) := by
  unfold configured
  cases (a.cleared c).addPermissions Scope.rootSerial c.permissions <;> rfl

/-- The stack that an action of a line leaves. -/
def stackAfter (a : Access) (line : Nat) : Action → ScopeStack
  | .enter => (a.stack.enter (a.place line)).1
  | .exit serial => (a.stack.exit (a.place line) serial).1
  | .setAccessor ref name => a.stack.setAccessor (a.resolveScope line ref) name
  | .addClearances ref dimension tokens => a.stack.addClearances (a.resolveScope line ref) dimension tokens
  | .addClearanceLists ref lists => a.stack.addClearanceLists (a.resolveScope line ref) lists
  | .addPermissions ref tokens =>
      (a.stack.addPermissions (a.resolveScope line ref) tokens).toOption.getD a.stack
  | .addDenied ref patterns => (a.stack.addDenied (a.resolveScope line ref) patterns).toOption.getD a.stack
  | .configure c =>
      c.check.toOption.elim a.stack fun _ =>
        ((a.cleared c).addPermissions Scope.rootSerial c.permissions).toOption.getD (a.cleared c)
  | _ => a.stack

theorem perform_stack (a : Access) (line : Nat) (action : Action) :
    (a.perform line action).1.stack = a.stackAfter line action := by
  have hrequest : ∀ (source : Option SourceRef) ask, (a.request line source ask).1.stack = a.stack := by
    intro source ask
    rw [request_eq a line source ask]
  cases action with
  | addPermissions ref tokens => exact changeStack_stack a _
  | addDenied ref patterns => exact changeStack_stack a _
  | configure c =>
    show (a.configure c).1.stack = c.check.toOption.elim a.stack _
    rw [configure_eq_configured, ← configured_stack]
    cases c.check <;> rfl
  | ownRestriction source entity => exact hrequest source fun r view => r.ownRestriction view entity
  | inclusiveRestriction source entity => exact hrequest source fun r view => r.inclusiveRestriction view entity
  | filter source entity _ => exact hrequest source fun r view => r.inclusiveRestriction view entity
  | _ => rfl

/-! ### The registry -/

/-- What an action sees of a source, if it is a request. -/
def seen (a : Access) (line : Nat) (source : Option SourceRef) : List SourceView :=
  match a.sourceOr source with
  | .ok s => [a.view line s]
  | .error _ => []

theorem seen_ok {source : Option SourceRef} {s : SourceRef} (h : a.sourceOr source = .ok s) :
    a.view line s ∈ a.seen line source := by
  simp [seen, h]

/-- What an action sees of sources. -/
def sees (a : Access) (line : Nat) : Action → List SourceView
  | .ownRestriction source _ => a.seen line source
  | .inclusiveRestriction source _ => a.seen line source
  | .filter source _ _ => a.seen line source
  | _ => []

/-- What an action of a line can do to the registry. -/
inductive RegistryStep (a : Access) (line : Nat) (action : Action) : Registry → Prop
  | classified {r : Registry} (h : a.registry.Classifies r) : RegistryStep a line action r
  | registered (s : Schema) (h : action = .register s) : RegistryStep a line action (a.registry.registerSchema s)
  | got (entity : String) : RegistryStep a line action (a.registry.get entity).1
  | switched (s : SourceRef) : RegistryStep a line action { a.registry with source := some s }
  | own {view : SourceView} (h : view ∈ a.sees line action) (entity : String) :
      RegistryStep a line action (a.registry.ownRestriction view entity).1
  | inclusive {view : SourceView} (h : view ∈ a.sees line action) (entity : String) :
      RegistryStep a line action (a.registry.inclusiveRestriction view entity).1

/-- The registry after a request is as it was, or as asking left it. -/
theorem request_registry (a : Access) (line : Nat) (source : Option SourceRef)
    (ask : Registry → SourceView → Registry × Except Fault Restriction) :
    (a.request line source ask).1.registry = a.registry ∨
      ∃ view ∈ a.seen line source,
        (a.request line source ask).1.registry = (ask a.registry view).1 := by
  unfold request seen
  cases a.sourceOr source with
  | error f => exact .inl rfl
  | ok s => exact .inr ⟨_, List.mem_singleton_self _, rfl⟩

theorem request_step (source : Option SourceRef)
    (ask : Registry → SourceView → Registry × Except Fault Restriction)
    (hask : ∀ view ∈ a.seen line source, RegistryStep a line action (ask a.registry view).1) :
    RegistryStep a line action (a.request line source ask).1.registry := by
  rcases request_registry a line source ask with heq | ⟨view, hview, heq⟩
  · rw [heq]
    exact .classified .refl
  · rw [heq]
    exact hask view hview

theorem changeStack_registry (a : Access) (result : Except Fault ScopeStack) :
    (a.changeStack result).1.registry = a.registry := by
  cases result <;> rfl

theorem perform_registry (a : Access) (line : Nat) (action : Action) :
    RegistryStep a line action (a.perform line action).1.registry := by
  cases action with
  | register s => exact .registered s rfl
  | classify entity field dimension =>
    exact .classified (Registry.Classifies.refl.classify entity field dimension)
  | builder entity => exact .got entity
  | enter => exact .classified .refl
  | exit _ => exact .classified .refl
  | setAccessor _ _ => exact .classified .refl
  | addClearances _ _ _ => exact .classified .refl
  | addClearanceLists _ _ => exact .classified .refl
  | addPermissions ref tokens =>
    show RegistryStep _ _ _ (a.changeStack _).1.registry
    rw [changeStack_registry]
    exact .classified .refl
  | addDenied ref patterns =>
    show RegistryStep _ _ _ (a.changeStack _).1.registry
    rw [changeStack_registry]
    exact .classified .refl
  | configure c =>
    obtain ⟨t, r, -, hr, heq⟩ := configure_eq a c
    show RegistryStep a line _ (a.configure c).1.registry
    rw [heq]
    exact .classified hr
  | addSource _ => exact .classified .refl
  | changeSource _ _ => exact .classified .refl
  | setStandardSource s => exact .switched s
  | ownRestriction source entity =>
    exact request_step source (fun r view => r.ownRestriction view entity)
      fun view hview => .own hview entity
  | inclusiveRestriction source entity =>
    exact request_step source (fun r view => r.inclusiveRestriction view entity)
      fun view hview => .inclusive hview entity
  | filter source entity _ =>
    exact request_step source (fun r view => r.inclusiveRestriction view entity)
      fun view hview => .inclusive hview entity
  | clearances _ _ => exact .classified .refl
  | accessor _ => exact .classified .refl
  | isPermitted _ _ => exact .classified .refl
  | branch _ => exact .classified .refl

/-! ### Tables of sources -/

/-- What an action can do to the tables of sources. -/
inductive SourceStep (a : Access) : List Source → Prop
  | kept : SourceStep a a.sources
  | added (s : Source) : SourceStep a (a.sources ++ [s])
  | changed (n : Nat) (change : SourceChange) : SourceStep a (a.sources.modify n change.apply)

theorem perform_sources (a : Access) (line : Nat) (action : Action) :
    SourceStep a (a.perform line action).1.sources := by
  have hrequest : ∀ (source : Option SourceRef) ask,
      SourceStep a (a.request line source ask).1.sources := by
    intro source ask
    rw [request_eq a line source ask]
    exact .kept
  have hstack : ∀ result, SourceStep a (a.changeStack result).1.sources := by
    intro result
    cases result <;> exact .kept
  cases action with
  | configure c =>
    obtain ⟨t, r, -, -, heq⟩ := configure_eq a c
    show SourceStep a (a.configure c).1.sources
    rw [heq]
    exact .kept
  | addSource s => exact .added s
  | changeSource n change => exact .changed n change
  | addPermissions ref tokens => exact hstack _
  | addDenied ref patterns => exact hstack _
  | ownRestriction source entity =>
    exact hrequest source fun r view => r.ownRestriction view entity
  | inclusiveRestriction source entity =>
    exact hrequest source fun r view => r.inclusiveRestriction view entity
  | filter source entity _ =>
    exact hrequest source fun r view => r.inclusiveRestriction view entity
  | _ => exact .kept

end Access

end RowAccess
