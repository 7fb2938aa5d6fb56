import Mathlib.Data.List.Basic
import Mathlib.Tactic.Common
import RowAccess.Proofs.Access.Step
import RowAccess.Proofs.Scope.Configuration

/-!
# What it takes to apply a configuration, and what comes of it

A configuration is applied where its check passes, the matcher reads its patterns, and its fields can be classified one
after another. It has then given the root what `Config.onRoot` says, and changed no other scope.
-/

namespace RowAccess

namespace Access

variable {a : Access} {c : Config}

/-! ### Fields one after another -/

theorem classifyAll_cons (r : Registry) (k : Classification) (rest : List Classification) :
    classifyAll r (k :: rest) = match r.classify k.entity k.field k.dimension with
      | (r, .error f) => (r, .error f)
      | (r, .ok ()) => classifyAll r rest := rfl

theorem classifyAll_append (ks ks' : List Classification) (r : Registry) :
    classifyAll r (ks ++ ks') = match classifyAll r ks with
      | (r, .error f) => (r, .error f)
      | (r, .ok ()) => classifyAll r ks' := by
  induction ks generalizing r with
  | nil => rfl
  | cons k rest ih =>
    rw [List.cons_append, classifyAll_cons, classifyAll_cons]
    rcases r.classify k.entity k.field k.dimension with ⟨r', f | _⟩
    · rfl
    · exact ih r'

/-- Two lists are classified if the first is, and the second behind it. -/
theorem classifyAll_append_eq_ok {ks ks' : List Classification} {r : Registry} :
    (classifyAll r (ks ++ ks')).2 = .ok () ↔
      (classifyAll r ks).2 = .ok () ∧ (classifyAll (classifyAll r ks).1 ks').2 = .ok () := by
  rw [classifyAll_append]
  rcases classifyAll r ks with ⟨r', f | _⟩
  · refine iff_of_false (fun h => ?_) fun h => ?_
    · cases h
    · cases h.1
  · exact (and_iff_right rfl).symm

theorem classifyAll_append_of_ok {ks : List Classification} {r : Registry} (h : (classifyAll r ks).2 = .ok ())
    (ks' : List Classification) : classifyAll r (ks ++ ks') = classifyAll (classifyAll r ks).1 ks' := by
  rw [classifyAll_append]
  generalize classifyAll r ks = out at h
  rcases out with ⟨r', f | _⟩
  · cases h
  · rfl

/-! ### A configuration -/

theorem scopes_cleared (a : Access) (c : Config) :
    (a.cleared c).scopes =
      a.stack.scopes.modify Scope.rootSerial fun s => (s.named c.accessor).cleared c.clearances.entries := by
  have hnamed : (a.named c).scopes = a.stack.scopes.modify Scope.rootSerial (·.named c.accessor) := by
    unfold named
    cases c.accessor with
    | none => exact (List.modify_id _ _).symm
    | some name => exact ScopeStack.scopes_update a.stack Scope.rootSerial (·.named (some name))
  unfold cleared
  rw [ScopeStack.scopes_addClearanceLists, hnamed, List.modify_modify_eq]
  rfl

/-- The stack with all that a configuration gives to the root. -/
def granted (a : Access) (c : Config) : ScopeStack :=
  (a.cleared c).update Scope.rootSerial (((a.cleared c).scope Scope.rootSerial).permitted c.permissions)

theorem scopes_granted (a : Access) (c : Config) :
    (a.granted c).scopes = a.stack.scopes.modify Scope.rootSerial c.onRoot := by
  refine (ScopeStack.scopes_update _ _ (·.permitted c.permissions)).trans ?_
  rw [scopes_cleared, List.modify_modify_eq]
  rfl

/-- What a configuration asks of an access control. -/
structure Takes (a : Access) (c : Config) : Prop where
  worded : c.Worded
  readable : ∀ p ∈ Scope.patternsOf c.permissions, a.stack.matcher.fault? p = none
  classified : (classifyAll a.registry c.classifications).2 = .ok ()

/-- What comes of a configuration that is applied. -/
structure Took (a : Access) (c : Config) (b : Access) : Prop where
  stack : a.stack.Changes Scope.rootSerial b.stack
  scopes : b.stack.scopes = a.stack.scopes.modify Scope.rootSerial c.onRoot
  eq : b = { a with stack := b.stack, registry := (classifyAll a.registry c.classifications).1 }

/-- What a configuration does after its check, as far as its patterns can be read. -/
theorem configured_eq (a : Access) (c : Config) :
    a.configured c = ((Scope.patternsOf c.permissions).findSome? a.stack.matcher.fault?).elim
      ({ a with
          stack := a.granted c
          registry := (classifyAll a.registry c.classifications).1 },
        (classifyAll a.registry c.classifications).2)
      fun f => ({ a with stack := a.cleared c }, .error f) := by
  unfold configured
  rw [ScopeStack.addPermissions_eq, (a.changes_cleared c).frame.2.1]
  cases (Scope.patternsOf c.permissions).findSome? a.stack.matcher.fault? <;> rfl

theorem configure_eq_ok : (a.configure c).2 = .ok () ↔ a.Takes c := by
  rw [configure_eq_configured]
  cases hcheck : c.check with
  | error f =>
    refine iff_of_false (fun h => ?_) fun h => ?_
    · cases h
    · cases hcheck.symm.trans (Config.check_eq_ok.mpr h.worded)
  | ok _ =>
    have hworded : c.Worded := Config.check_eq_ok.mp hcheck
    show (a.configured c).2 = .ok () ↔ _
    rw [configured_eq]
    cases hread : (Scope.patternsOf c.permissions).findSome? a.stack.matcher.fault? with
    | some f =>
      refine iff_of_false (fun h => ?_) fun h => ?_
      · cases h
      · cases hread.symm.trans (List.findSome?_eq_none_iff.mpr h.readable)
    | none => exact ⟨fun h => ⟨hworded, List.findSome?_eq_none_iff.mp hread, h⟩, Takes.classified⟩

/-- The permissions of a configuration that is taken are added. -/
theorem Takes.addPermissions (h : a.Takes c) :
    (a.cleared c).addPermissions Scope.rootSerial c.permissions = .ok (a.granted c) := by
  rw [ScopeStack.addPermissions_eq, (a.changes_cleared c).frame.2.1, List.findSome?_eq_none_iff.mpr h.readable]
  rfl

theorem Takes.took (h : a.Takes c) : a.Took c (a.configure c).1 := by
  have heq : (a.configure c).1 = (a.configured c).1 := by
    rw [configure_eq_configured, Config.check_eq_ok.mpr h.worded]
    rfl
  rw [heq, configured, h.addPermissions]
  exact ⟨(a.changes_cleared c).trans (ScopeStack.changes_addPermissions h.addPermissions), a.scopes_granted c, rfl⟩

namespace Took

variable {b : Access}

theorem registry (h : a.Took c b) : b.registry = (classifyAll a.registry c.classifications).1 := by
  rw [h.eq]

theorem matcher (h : a.Took c b) : b.stack.matcher = a.stack.matcher := h.stack.frame.2.1

theorem scope? (h : a.Took c b) (n : Nat) :
    b.stack.scope? n = (a.stack.scope? n).map fun s => if Scope.rootSerial = n then c.onRoot s else s := by
  unfold ScopeStack.scope?
  rw [h.scopes, List.getElem?_modify]
  rfl

end Took

end Access

end RowAccess
