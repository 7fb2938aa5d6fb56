import Mathlib.Data.List.Basic
import Mathlib.Tactic.Common
import RowAccess.Proofs.Access.CurrentScope
import RowAccess.Proofs.Scope.Clearance

/-!
# Clearances over a run

A run gives tokens to scopes. After it every scope holds those that were given to it, in the order in which they came,
and is granted what its parent is granted with its own new tokens behind that. Whatever an action does to one scope,
only that scope and those within it are granted anything else afterwards.
-/

namespace RowAccess

namespace Access

open ScopeStack (Adds Changes)

variable {a : Access} {line : Nat} {action : Action}

/-! ### What a run gives -/

/-- What an action of a line gives. -/
def additions (a : Access) (line : Nat) : Action → List Addition
  | .addClearances ref dimension tokens => a.stack.offered (a.resolveScope line ref) dimension tokens
  | .addClearanceLists ref lists =>
      lists.flatMap fun e => a.stack.offered (a.resolveScope line ref) e.1 (splitTokenList e.2)
  | .configure c =>
      c.check.toOption.elim [] fun _ =>
        c.clearances.entries.flatMap fun e => a.stack.offered Scope.rootSerial e.1 (splitTokenList e.2)
  | _ => []

/-- What the actions of a run give, one after another. -/
def additionsIn (a : Access) : List (Nat × Action) → List Addition
  | [] => []
  | (line, action) :: rest => a.additions line action ++ additionsIn (a.perform line action).1 rest

theorem adds_named (a : Access) (c : Config) : Adds a.stack (a.named c) [] := by
  unfold named
  cases c.accessor with
  | none => exact .refl a.stack
  | some name => exact ScopeStack.adds_setAccessor a.stack Scope.rootSerial name

/-- A configuration that passes its check gives its tokens to the root, whatever becomes of the rest. -/
theorem adds_configured (a : Access) (c : Config) :
    Adds a.stack (((a.cleared c).addPermissions Scope.rootSerial c.permissions).toOption.getD (a.cleared c))
      (c.clearances.entries.flatMap fun e => a.stack.offered Scope.rootSerial e.1 (splitTokenList e.2)) := by
  have hoffered : (a.named c).offered Scope.rootSerial = a.stack.offered Scope.rootSerial := by
    unfold ScopeStack.offered
    rw [(a.changes_named c).frame.1]
  have hcleared := (a.adds_named c).trans
    (ScopeStack.adds_addClearanceLists Scope.rootSerial c.clearances.entries (a.named c))
  rw [hoffered] at hcleared
  rw [List.nil_append] at hcleared
  rw [← List.append_nil (c.clearances.entries.flatMap _)]
  exact hcleared.trans (ScopeStack.adds_insertPermissions (a.cleared c) Scope.rootSerial _ _)

theorem adds_perform (a : Access) (line : Nat) (action : Action) :
    Adds a.stack (a.perform line action).1.stack (a.additions line action) := by
  rw [perform_stack]
  cases action with
  | enter => exact ScopeStack.adds_enter a.stack (a.place line)
  | exit serial => exact ScopeStack.adds_exit a.stack (a.place line) serial
  | setAccessor ref name => exact ScopeStack.adds_setAccessor a.stack (a.resolveScope line ref) name
  | addClearances ref dimension tokens =>
    exact ScopeStack.adds_addClearances a.stack (a.resolveScope line ref) dimension tokens
  | addClearanceLists ref lists =>
    exact ScopeStack.adds_addClearanceLists (a.resolveScope line ref) lists a.stack
  | addPermissions ref tokens => exact ScopeStack.adds_insertPermissions a.stack (a.resolveScope line ref) _ _
  | addDenied ref patterns => exact ScopeStack.adds_insertPermissions a.stack (a.resolveScope line ref) _ _
  | configure c =>
    show Adds a.stack (c.check.toOption.elim a.stack _) (c.check.toOption.elim [] _)
    cases c.check.toOption with
    | none => exact .refl a.stack
    | some _ => exact adds_configured a c
  | _ => exact .refl a.stack

theorem adds_run (acts : List (Nat × Action)) :
    ∀ a : Access, Adds a.stack (a.run acts).1.stack (a.additionsIn acts) := by
  induction acts with
  | nil => exact fun a => .refl a.stack
  | cons step rest ih => exact fun a => (adds_perform a step.1 step.2).trans (ih _)

/-- After a run every scope holds the tokens that were given to it, each of them once and in order. -/
theorem ownTokens_run (c : Catalog) (m : Matcher) (acts : List (Nat × Action)) (n : Nat) (dimension : String) :
    ((separate c m).run acts).1.stack.ownTokens n dimension =
      (Addition.tokens ((separate c m).additionsIn acts) n dimension).eraseDups := by
  have hnew : (separate c m).stack.ownTokens n dimension = [] := by
    cases n <;> rfl
  rw [adds_run acts (separate c m) n dimension, hnew, TokenTable.foldl_withToken_nil]

theorem distinct_run (c : Catalog) (m : Matcher) (acts : List (Nat × Action)) :
    ((separate c m).run acts).1.stack.Distinct := by
  intro n dimension
  rw [ownTokens_run, ← TokenTable.foldl_withToken_nil]
  exact TokenTable.nodup_foldl_withToken List.nodup_nil

/-! ### Which scope an action changes -/

/-- The scope that an action changes where it stands, if it is such an action. -/
def mutated (a : Access) (line : Nat) : Action → Option Nat
  | .setAccessor ref _ => some (a.resolveScope line ref)
  | .addClearances ref _ _ => some (a.resolveScope line ref)
  | .addClearanceLists ref _ => some (a.resolveScope line ref)
  | .addPermissions ref _ => some (a.resolveScope line ref)
  | .addDenied ref _ => some (a.resolveScope line ref)
  | .configure _ => some Scope.rootSerial
  | _ => none

/-- Scopes other than the one that an action changes stay as they are. -/
theorem scope?_perform {n : Nat} {s : Scope} (hs : a.stack.scope? n = some s)
    (hn : a.mutated line action ≠ some n) : (a.perform line action).1.stack.scope? n = some s := by
  have hchanges : ∀ {serial : Nat} {t : ScopeStack}, a.stack.Changes serial t →
      some serial ≠ some n → t.scope? n = some s :=
    fun h hne => (h.scope?_of_ne fun heq => hne (congrArg some heq.symm)).trans hs
  have hattempt : ∀ {serial : Nat} {result : Except Fault ScopeStack},
      (∀ t, result = .ok t → a.stack.Changes serial t) → some serial ≠ some n →
        (result.toOption.getD a.stack).scope? n = some s := by
    intro serial result h hne
    cases result with
    | error f => exact hs
    | ok t => exact hchanges (h t rfl) hne
  rw [perform_stack]
  cases action with
  | enter => exact ScopeStack.scope?_enter_of_scope? hs
  | exit serial =>
    show (a.stack.exit _ serial).1.scopes[n]? = some s
    rw [ScopeStack.scopes_exit]
    exact hs
  | setAccessor ref name => exact hchanges (ScopeStack.changes_setAccessor _ _ name) hn
  | addClearances ref dimension tokens => exact hchanges (ScopeStack.changes_addClearances _ _ _ tokens) hn
  | addClearanceLists ref lists => exact hchanges (ScopeStack.changes_addClearanceLists _ lists _) hn
  | addPermissions ref tokens => exact hattempt (fun t => ScopeStack.changes_addPermissions) hn
  | addDenied ref patterns => exact hattempt (fun t => ScopeStack.changes_insertPermissions) hn
  | configure c =>
    obtain ⟨t, r, ht, -, heq⟩ := configure_eq a c
    rw [← perform_stack]
    show (a.configure c).1.stack.scope? n = some s
    rw [heq]
    exact hchanges ht hn
  | _ => exact hs

/-! ### What scopes are granted -/

/-- In every state that a run comes to, a scope holds the tokens that were given to it, each once and in order. The
root is granted its own, and every other scope what its parent is granted and, behind that, its own that are not
among it; so what a scope is granted holds no token twice, and begins with what each scope around it is granted. An
action changes what a scope is granted only if it changes that scope or one around it. -/
theorem granted_along_lineage (c : Catalog) (m : Matcher) (acts : List (Nat × Action)) :
    let a := ((separate c m).run acts).1
    let granted := a.stack.effectiveClearances
    (∀ n s, a.stack.scope? n = some s → ∀ d,
      s.clearances.tokens d = (Addition.tokens ((separate c m).additionsIn acts) n d).eraseDups ∧
      (s.parent = none → granted n d = s.clearances.tokens d) ∧
      (∀ q, s.parent = some q → granted n d = granted q d ++ (s.clearances.tokens d).removeAll (granted q d)) ∧
      (s.clearances.tokens d).Nodup ∧ (granted n d).Nodup ∧
      ∀ q ∈ (a.stack.lineage n).map Scope.serial, granted q d <+: granted n d) ∧
    ∀ line action n s, a.stack.scope? n = some s →
      (∀ k, a.mutated line action = some k → k ∉ (a.stack.lineage n).map Scope.serial) →
      (a.perform line action).1.stack.effectiveClearances n = granted n := by
  intro a granted
  have ht : a.stack.Tree := ((inTree_separate c m).run acts).tree
  have hown : a.stack.Distinct := distinct_run c m acts
  refine ⟨fun n s hs d => ⟨?_, ?_, ?_, hown.own hs d, Scope.nodup_distinct _, ht.effective_prefix hown d hs⟩, ?_⟩
  · rw [← ownTokens_run, ScopeStack.ownTokens, ScopeStack.scope_of_scope? hs]
  · exact fun hparent => hown.effective_root hs hparent d
  · exact fun q hparent => hown.effective_child hs hparent (ht.parent_lt hs hparent) d
  · intro line action n s hs houtside
    have hlineage : (a.perform line action).1.stack.lineage n = a.stack.lineage n := by
      refine ht.lineage_congr hs fun k hk => ?_
      obtain ⟨s', hs', -⟩ := ht.mem_lineage hk
      rw [hs']
      exact scope?_perform hs' fun hmutated => houtside k hmutated hk
    funext d
    rw [ScopeStack.effectiveClearances, hlineage]
    rfl

/-- Tokens are given to the root, to a scope within and to one within that, some of them twice; then again to the
root. -/
def regionsGiven : List (Nat × Action) :=
  [(0, .addClearances (.numbered 0) "region" ["EU", "US", "EU"]), (0, .enter),
    (0, .addClearances .current "region" ["UK", "US"]), (0, .enter),
    (0, .addClearanceLists .current [("region", "JP, UK"), ("tier", "*"), ("region", "EU,JP")]),
    (0, .addClearances (.numbered 0) "region" ["IN", "JP"])]

theorem granted_along_lineage_regions :
    let a := ((separate [] .standard).run regionsGiven).1
    a.stack.effectiveClearances 1 "region" = ["EU", "US", "IN", "JP", "UK"] ∧
      a.stack.effectiveClearances 1 "region" <+: a.stack.effectiveClearances 2 "region" ∧
      (a.perform 0 (.addClearances .current "region" ["CN"])).1.stack.effectiveClearances 1 =
        a.stack.effectiveClearances 1 := by
  intro a
  obtain ⟨hheld, hothers⟩ := granted_along_lineage [] .standard regionsGiven
  have hs : a.stack.scope? 1 = some (a.stack.scope 1) := by decide +kernel
  have hs' : a.stack.scope? 2 = some (a.stack.scope 2) := by decide +kernel
  obtain ⟨-, -, hchild, -⟩ := hheld 1 _ hs "region"
  obtain ⟨-, -, -, -, -, hbegins⟩ := hheld 2 _ hs' "region"
  refine ⟨(hchild 0 (by decide +kernel)).trans (by decide +kernel), hbegins 1 (by decide +kernel), ?_⟩
  exact hothers 0 _ 1 _ hs fun k hk => by
    obtain rfl : 2 = k := Option.some.inj hk
    decide +kernel

end Access

end RowAccess
