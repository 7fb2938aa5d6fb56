import Mathlib.Data.List.Basic
import Mathlib.Tactic.Common
import RowAccess.Proofs.Access.Permission
import RowAccess.Proofs.Scope.Insertion

/-!
# Insertions over a run

A call that gives patterns to a scope inserts all of them or leaves everything as it is. Scopes therefore hold no
pattern that their matcher refuses, in any state that a run comes to, and a check of permissions reads every pattern
that it asks for.
-/

namespace RowAccess

namespace Access

open ScopeStack (Gives)

variable {a : Access} {line : Nat} {action : Action}

/-! ### One call -/

/-- What comes of giving patterns to the scope with a number. The first pattern that is refused refuses them all, and
nothing is changed. Where none is refused, the scope has them behind those that it had, each of them once, and no
other scope is changed. -/
structure Inserted (a : Access) (n : Nat) (s : Scope) (granted denied : List String)
    (out : Access × Except Fault Answer) : Prop where
  refused : ∀ p, (granted ++ denied).find? a.stack.matcher.refuses = some p →
    ∃ reason, a.stack.matcher.objection? p = some reason ∧ out = (a, .error (.malformedSelector p reason))
  inserted : (granted ++ denied).find? a.stack.matcher.refuses = none →
    ∃ t revision, out = ({ a with stack := t }, .ok .done) ∧
      t.scope? n = some { s with
        granted := s.granted ++ (granted.removeAll s.granted).eraseDups
        denied := s.denied ++ (denied.removeAll s.denied).eraseDups
        revision } ∧
      ∀ k, k ≠ n → t.scope? k = a.stack.scope? k

theorem inserted_insertPermissions {n : Nat} {s : Scope} (hs : a.stack.scope? n = some s)
    (granted denied : List String) :
    Inserted a n s granted denied (a.changeStack (a.stack.insertPermissions n granted denied)) := by
  unfold ScopeStack.insertPermissions
  rw [ScopeStack.scope_of_scope? hs]
  rcases s.addPermissions_cases a.stack.matcher granted denied with
    ⟨p, reason, hfirst, hreason, heq⟩ | ⟨hnone, revision, -, heq⟩
  · rw [heq]
    constructor
    · intro q hq
      obtain rfl := Option.some.inj (hfirst.symm.trans hq)
      exact ⟨reason, hreason, rfl⟩
    · intro hnone
      cases hfirst.symm.trans hnone
  · rw [heq]
    constructor
    · intro q hq
      cases hnone.symm.trans hq
    · intro _
      refine ⟨_, revision, rfl, ?_, fun k hk => ?_⟩
      · rw [ScopeStack.scope?_update, if_pos rfl, hs, Option.map_some]
      · rw [ScopeStack.scope?_update, if_neg hk]

/-! ### Patterns that are held -/

/-- What a run inserts can all be read. -/
theorem fault?_insertions {i : Insertion} (hi : i ∈ a.insertions line action) :
    a.stack.matcher.fault? i.pattern = none := by
  have htaken : ∀ {n : Nat} {l : List Insertion}, i ∈ a.stack.taken n l → a.stack.matcher.fault? i.pattern = none := by
    intro n l hin
    unfold ScopeStack.taken at hin
    split at hin
    next h => exact h.2 i hin
    next => cases hin
  cases action with
  | addPermissions ref tokens => exact htaken hi
  | addDenied ref patterns => exact htaken hi
  | configure c =>
    change i ∈ c.check.toOption.elim [] _ at hi
    cases hc : c.check.toOption with
    | none =>
      rw [hc] at hi
      cases hi
    | some _ =>
      rw [hc] at hi
      exact htaken hi
  | _ => cases hi

theorem fault?_insertionsIn {i : Insertion} : ∀ (acts : List (Nat × Action)) {a : Access},
    i ∈ a.insertionsIn acts → a.stack.matcher.fault? i.pattern = none
  | [], _, hi => by cases hi
  | (line, action) :: rest, a, hi => by
      rcases List.mem_append.mp hi with hi | hi
      · exact fault?_insertions hi
      · rw [← (gives_perform a line action).matcher]
        exact fault?_insertionsIn rest hi

/-- After a run no scope holds a pattern that is refused. -/
theorem objection?_of_holds (c : Catalog) (m : Matcher) (acts : List (Nat × Action)) {i : Insertion}
    (hi : ((separate c m).run acts).1.stack.Holds i) : m.objection? i.pattern = none := by
  have hgiven := (holds_run c m acts i).mp hi
  exact Matcher.fault?_eq_none.mp (fault?_insertionsIn acts hgiven)

/-- In every state that a run comes to, a call that gives patterns to a scope inserts them all or changes nothing:
tokens that are granted are read before those that are denied, and the first that is refused is reported. No scope
holds a pattern that the matcher refuses, so that a check of permissions can read all patterns that it asks for. -/
theorem insertion_all_or_nothing (c : Catalog) (m : Matcher) (acts : List (Nat × Action)) :
    let a := ((separate c m).run acts).1
    (∀ line ref s, a.stack.scope? (a.resolveScope line ref) = some s →
      (∀ tokens, Inserted a (a.resolveScope line ref) s
        (tokens.filter fun token => (Scope.deniedPattern? token).isNone) (tokens.filterMap Scope.deniedPattern?)
        (a.perform line (.addPermissions ref tokens))) ∧
      ∀ patterns, Inserted a (a.resolveScope line ref) s [] patterns (a.perform line (.addDenied ref patterns))) ∧
    a.stack.matcher = m ∧
    (∀ n s, a.stack.scope? n = some s → ∀ p ∈ s.granted ++ s.denied, m.objection? p = none) ∧
    ∀ n, ∀ p ∈ Scope.effectiveGranted (a.stack.lineage n) ++ Scope.effectiveDenied (a.stack.lineage n),
      ∃ accepts, m.test? p = .ok accepts ∧ ∀ name, m.isMatch p name = accepts name := by
  intro a
  have ht : a.stack.Tree := ((inTree_separate c m).run acts).tree
  have hheld : ∀ n s, a.stack.scope? n = some s → ∀ p ∈ s.granted ++ s.denied, m.objection? p = none := by
    intro n s hs p hp
    rw [← ScopeStack.scope_of_scope? hs] at hp
    rcases List.mem_append.mp hp with hp | hp
    · exact objection?_of_holds c m acts (i := ⟨n, false, p⟩) hp
    · exact objection?_of_holds c m acts (i := ⟨n, true, p⟩) hp
  refine ⟨fun line ref s hs => ⟨fun tokens => ?_, fun patterns => inserted_insertPermissions hs [] patterns⟩,
    (gives_run acts (separate c m)).matcher, hheld, fun n p hp => ?_⟩
  · have hsplit := inserted_insertPermissions hs (Scope.splitPermissions tokens).1 (Scope.splitPermissions tokens).2
    rw [Scope.splitPermissions_eq] at hsplit
    show Inserted a _ s _ _ (a.changeStack (a.stack.addPermissions _ tokens))
    unfold ScopeStack.addPermissions
    rw [Scope.splitPermissions_eq]
    exact hsplit
  · refine Matcher.test?_of_objection? ?_
    rcases List.mem_append.mp hp with hp | hp
    · obtain ⟨s, hs, hp⟩ := Scope.mem_distinct_map.mp hp
      exact hheld _ s (ht.scope?_of_mem_lineage hs) p (List.mem_append_left _ hp)
    · obtain ⟨s, hs, hp⟩ := Scope.mem_distinct_map.mp hp
      exact hheld _ s (ht.scope?_of_mem_lineage hs) p (List.mem_append_right _ hp)

/-- Scopes one within the other, with a granted pattern and a denied one. -/
def readers : List (Nat × Action) :=
  [(0, .addPermissions (.numbered 0) ["read-*"]), (0, .enter), (0, .addDenied .current ["read-salary"])]

theorem insertion_all_or_nothing_readers :
    let a := ((separate [] .glob).run readers).1
    (∃ reason, Matcher.glob.objection? "write-[" = some reason ∧
      a.perform 0 (.addPermissions (.numbered 1) ["print", "!read-[", "write-["]) =
        (a, .error (.malformedSelector "write-[" reason))) ∧
      ∃ accepts, Matcher.glob.test? "read-*" = .ok accepts ∧
        ∀ name, Matcher.glob.isMatch "read-*" name = accepts name := by
  intro a
  obtain ⟨hcalls, hmatcher, -, hread⟩ := insertion_all_or_nothing [] .glob readers
  have hs : a.stack.scope? 1 = some (a.stack.scope 1) := by decide +kernel
  have hcall := ((hcalls 0 (.numbered 1) _ hs).1 ["print", "!read-[", "write-["]).refused "write-[" (by decide +kernel)
  rw [hmatcher] at hcall
  exact ⟨hcall, hread 1 "read-*" (by decide +kernel)⟩

end Access

end RowAccess
