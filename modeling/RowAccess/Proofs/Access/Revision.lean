import Mathlib.Data.List.Basic
import Mathlib.Tactic.Common
import RowAccess.Proofs.Access.Step
import RowAccess.Proofs.Scope.Revision

/-!
# What calls count as changes

Each call that gives tokens or patterns to a scope moves the revision of that scope and the epoch of the stack by the
same amount. Whether they move is whether the scope comes to hold anything by the call, but for calls that only record
dimensions and for calls that only repeat patterns.
-/

namespace RowAccess

/-- What an action gives, and to which scope. -/
def Action.gift? : Action → Option (ScopeRef × Gift)
  | addClearances ref dimension tokens => some (ref, .tokens [(dimension, tokens)])
  | addClearanceLists ref lists => some (ref, .tokens (TokenTable.listed lists))
  | addPermissions ref tokens =>
      some (ref, .patterns (Scope.splitPermissions tokens).1 (Scope.splitPermissions tokens).2)
  | addDenied ref patterns => some (ref, .patterns [] patterns)
  | _ => none

namespace Access

variable {a : Access} {line n : Nat} {action : Action} {ref : ScopeRef} {gift : Gift} {s : Scope}

/-- What is given to a scope changes that scope where it stands, by the gift alone. -/
theorem gift_perform (hgift : action.gift? = some (ref, gift))
    (hs : a.stack.scope? (a.resolveScope line ref) = some s) :
    a.stack.Changes (a.resolveScope line ref) (a.perform line action).1.stack ∧
      (a.perform line action).1.stack.scope? (a.resolveScope line ref) = some (gift.result a.stack.matcher s) := by
  rw [perform_stack]
  cases action with
  | addClearances r dimension tokens =>
    cases hgift
    refine ⟨ScopeStack.changes_addClearances a.stack _ dimension tokens, ?_⟩
    show (a.stack.update _ _).scope? _ = _
    rw [ScopeStack.scope?_update, if_pos rfl, hs, ScopeStack.scope_of_scope? hs]
    rfl
  | addClearanceLists r lists =>
    cases hgift
    refine ⟨ScopeStack.changes_addClearanceLists _ lists a.stack, ?_⟩
    show (a.stack.addClearanceLists _ lists).scopes[_]? = _
    rw [ScopeStack.scopes_addClearanceLists, List.getElem?_modify_eq]
    show (a.stack.scope? _).map _ = _
    rw [hs, Option.map_some, Scope.cleared_eq_given]
    rfl
  | addPermissions r tokens =>
    cases hgift
    exact ⟨ScopeStack.changes_attempt fun _ => ScopeStack.changes_addPermissions,
      ScopeStack.scope?_insertPermissions hs _ _⟩
  | addDenied r patterns =>
    cases hgift
    exact ⟨ScopeStack.changes_attempt fun _ => ScopeStack.changes_insertPermissions,
      ScopeStack.scope?_insertPermissions hs _ _⟩
  | _ => cases hgift

/-- Whatever is given to a scope, its revision and the epoch move by the same amount. They move where the clearances of
the scope, recorded dimensions included, or its patterns are others than before, and only there, with two exceptions:
neither moves for dimensions that are recorded without a new token, and both move for patterns that are all held. -/
theorem revision_counts_changes (a : Access) (line : Nat) (action : Action) (ref : ScopeRef) (gift : Gift) (s : Scope)
    (hgift : action.gift? = some (ref, gift)) (hs : a.stack.scope? (a.resolveScope line ref) = some s) :
    let b := (a.perform line action).1
    ∃ s', b.stack.scope? (a.resolveScope line ref) = some s' ∧
      s.revision ≤ s'.revision ∧ b.stack.epoch + s.revision = a.stack.epoch + s'.revision ∧
      (¬ gift.Records s → ¬ gift.Repeats a.stack.matcher s →
        (s'.revision ≠ s.revision ↔ ¬ s.SameHoldings s') ∧ (b.stack.epoch ≠ a.stack.epoch ↔ ¬ s.SameHoldings s')) ∧
      (gift.Records s → s'.revision = s.revision ∧ ¬ s.SameHoldings s') ∧
      (gift.Repeats a.stack.matcher s → s'.revision = s.revision + 1 ∧ s.SameHoldings s') := by
  intro b
  obtain ⟨hchanges, hafter⟩ := gift_perform hgift hs
  obtain ⟨s', hs', hle, hepoch⟩ := hchanges.moved hs
  obtain rfl : s' = gift.result a.stack.matcher s := Option.some.inj (hs'.symm.trans hafter)
  have hcounted := gift.counted a.stack.matcher s
  refine ⟨_, hs', hle, hepoch, fun hrecords hrepeats => ?_, hcounted.records, hcounted.repeats⟩
  have hmoves := hcounted.moves hrecords hrepeats
  have hepoch : b.stack.epoch + s.revision = a.stack.epoch + (gift.result a.stack.matcher s).revision := hepoch
  have htogether : b.stack.epoch = a.stack.epoch ↔ (gift.result a.stack.matcher s).revision = s.revision := by omega
  exact ⟨not_congr hmoves, not_congr (htogether.trans hmoves)⟩

/-- A root with a token and a pattern. -/
def regionReader : List (Nat × Action) :=
  [(0, .addClearances (.numbered 0) "region" ["EU"]), (0, .addPermissions (.numbered 0) ["read-*"])]

/-- Lists of which one brings a token are counted, and a token that is held is not. -/
theorem revision_counts_changes_regionReader :
    let a := ((separate [] .glob).run regionReader).1
    let lists := a.perform 0 (.addClearanceLists (.numbered 0) [("tier", ""), ("region", "EU, US")])
    let held := a.perform 0 (.addClearances .current "region" ["EU"])
    lists.1.stack.epoch ≠ a.stack.epoch ∧ held.1.stack.epoch = a.stack.epoch := by
  intro a lists held
  have hs : a.stack.scope? 0 = some (a.stack.scope 0) := by decide +kernel
  constructor
  · obtain ⟨s', hs', -, -, hmoves, -⟩ := revision_counts_changes a 0
      (.addClearanceLists (.numbered 0) [("tier", ""), ("region", "EU, US")]) (.numbered 0) _ _ rfl hs
    obtain rfl := ScopeStack.scope_of_scope? hs'
    exact (hmoves (by decide +kernel) (by decide +kernel)).2.mpr (by decide +kernel)
  · have hcurrent : a.stack.scope? (a.resolveScope 0 .current) = some (a.stack.scope 0) := by decide +kernel
    obtain ⟨s', hs', -, -, hmoves, -⟩ := revision_counts_changes a 0
      (.addClearances .current "region" ["EU"]) .current _ _ rfl hcurrent
    obtain rfl := ScopeStack.scope_of_scope? hs'
    exact not_ne_iff.mp (mt (hmoves (by decide +kernel) (by decide +kernel)).2.mp (not_not.mpr (by decide +kernel)))

/-- A pattern that is given again is counted, though nothing is changed by it. A dimension that is recorded without
tokens is not counted, though the table is changed. -/
theorem repeated_pattern_counts :
    let a := ((separate [] .glob).run regionReader).1
    let again := (a.perform 0 (.addPermissions (.numbered 0) ["read-*"])).1
    let recorded := (a.perform 0 (.addClearances (.numbered 0) "tier" [])).1
    ((a.stack.scope 0).SameHoldings (again.stack.scope 0) ∧
      (again.stack.scope 0).revision = (a.stack.scope 0).revision + 1 ∧ again.stack.epoch = a.stack.epoch + 1) ∧
    ¬ (a.stack.scope 0).SameHoldings (recorded.stack.scope 0) ∧
      (recorded.stack.scope 0).revision = (a.stack.scope 0).revision ∧ recorded.stack.epoch = a.stack.epoch := by
  decide +kernel

end Access

end RowAccess
