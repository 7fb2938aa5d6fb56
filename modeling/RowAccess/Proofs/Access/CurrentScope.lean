import Mathlib.Data.List.Basic
import Mathlib.Tactic.Common
import RowAccess.Proofs.Access.Step
import RowAccess.Proofs.Scope.Current

/-!
# The current scopes of all lines

In every state that a run comes to, the scopes are a tree and every line has its place in it, though the
place may be stale. From there, entering a scope moves the line that enters it and no other; using a guard
moves exactly those lines whose current scope is left, wherever they are; nothing else moves a line.
-/

namespace RowAccess

namespace Access

open ScopeStack (Changes Tree Placed)

/-- The scopes are a tree, and all lines are in it. -/
structure InTree (a : Access) : Prop where
  tree : a.stack.Tree
  placed : ∀ place ∈ a.places, a.stack.Placed place

variable {a : Access} {line : Nat} {action : Action}

theorem InTree.place (h : a.InTree) (line : Nat) : a.stack.Placed (a.place line) := by
  unfold Access.place
  cases hp : a.places[line]? with
  | none => exact ScopeStack.placed_none _
  | some place => exact h.placed place (List.mem_of_getElem? hp)

theorem inTree_separate (c : Catalog) (m : Matcher) : (separate c m).InTree := by
  have hroot : ∀ {n s}, (ScopeStack.new m).scope? n = some s → n = Scope.rootSerial ∧ s = .root := by
    intro n s hs
    obtain ⟨hlt, heq⟩ := List.getElem?_eq_some_iff.mp hs
    obtain rfl : n = 0 := Nat.lt_one_iff.mp hlt
    exact ⟨rfl, heq.symm⟩
  refine ⟨⟨?_, ⟨.root, rfl, rfl, rfl⟩, ?_, ?_, ?_⟩, ?_⟩
  · intro n s hs
    obtain ⟨rfl, rfl⟩ := hroot hs
    rfl
  · intro n s hs hn
    exact absurd (hroot hs).1 hn
  · intro n s hs
    obtain ⟨rfl, rfl⟩ := hroot hs
    exact ⟨fun h => (List.not_mem_nil h).elim,
      fun h => absurd rfl (ScopeStack.isEntered_iff.mp h).1⟩
  · intro n hn
    cases hn
  · intro place hp
    rw [List.mem_singleton.mp hp]
    exact ScopeStack.placed_none _

/-- What holds of the place of a line after a move, and of all other places, holds of all places. -/
theorem forall_mem_set {p : Place → Prop} {places : List Place} {line : Nat} {place : Place}
    (h : ∀ q ∈ places, p q) (hp : p place) : ∀ q ∈ places.set line place, p q := by
  intro q hq
  rcases List.mem_or_eq_of_mem_set hq with hq | rfl
  · exact h q hq
  · exact hp

theorem ScopeStep.inTree (h : a.InTree) {t : ScopeStack} {places : List Place}
    (hs : ScopeStep a line action t places) : t.Tree ∧ ∀ place ∈ places, t.Placed place := by
  have hplace := h.place line
  cases hs with
  | kept => exact ⟨h.tree, h.placed⟩
  | changed hc =>
    exact ⟨h.tree.changes hc, fun q hq => ScopeStack.placed_changes (h.placed q hq) hc⟩
  | entered =>
    refine ⟨h.tree.enter hplace, forall_mem_set ?_ (h.tree.placed_enter _)⟩
    exact fun q hq => ScopeStack.placed_enter_of_placed (h.placed q hq)
  | exited serial =>
    rcases h.tree.exit_cases (a.place line) serial with ⟨-, heq⟩ | ⟨s, hg, hs, heq⟩
    · rw [heq]
      exact ⟨h.tree, forall_mem_set h.placed hplace⟩
    · rw [heq]
      exact ⟨h.tree.leave hs, forall_mem_set h.placed (h.tree.placed_placeAfter hs hplace)⟩
  | branched inherits =>
    refine ⟨h.tree, fun q hq => ?_⟩
    rcases List.mem_append.mp hq with hq | hq
    · exact h.placed q hq
    · rw [List.mem_singleton.mp hq]
      split
      · exact hplace
      · exact ScopeStack.placed_none _

theorem InTree.perform (h : a.InTree) (line : Nat) (action : Action) :
    (a.perform line action).1.InTree := by
  obtain ⟨htree, hplaced⟩ := (perform_scopes a line action).inTree h
  exact ⟨htree, hplaced⟩

theorem InTree.run {a : Access} (h : a.InTree) :
    ∀ (acts : List (Nat × Action)), (a.run acts).1.InTree := by
  intro acts
  induction acts generalizing a with
  | nil => exact h
  | cons step rest ih => exact ih (h.perform step.1 step.2)

/-! ### One step -/

theorem ScopeStep.length_le {t : ScopeStack} {places : List Place}
    (h : ScopeStep a line action t places) : a.places.length ≤ places.length := by
  cases h with
  | kept => exact Nat.le_refl _
  | changed => exact Nat.le_refl _
  | entered => exact Nat.le_of_eq List.length_set.symm
  | exited => exact Nat.le_of_eq List.length_set.symm
  | branched =>
    rw [List.length_append]
    exact Nat.le_add_right _ _

/-- Lines of execution stay. -/
theorem lt_length_perform {q : Nat} (h : q < a.places.length) (line : Nat) (action : Action) :
    q < (a.perform line action).1.places.length :=
  Nat.lt_of_lt_of_le h (perform_scopes a line action).length_le

theorem place_set {places : List Place} {line q : Nat} {place : Place} :
    ((places.set line place)[q]?).getD none =
      if q = line ∧ line < places.length then place else (places[q]?).getD none := by
  rw [List.getElem?_set]
  by_cases hq : q = line
  · subst hq
    by_cases hlt : q < places.length
    · simp [hlt]
    · simp [hlt]
  · rw [if_neg (Ne.symm hq), if_neg fun h => hq h.1]

/-- A line that enters a scope is in the new scope, within the one that it was in; no other line moves. -/
theorem InTree.current_enter (h : a.InTree) (hline : line < a.places.length) (q : Nat) :
    (a.perform line .enter).1.current q =
      if q = line then a.stack.scopes.length else a.current q := by
  show (a.stack.enter (a.place line)).1.current
    (((a.places.set line (a.stack.enter (a.place line)).2.1)[q]?).getD none) = _
  rw [place_set]
  by_cases hq : q = line
  · rw [if_pos ⟨hq, hline⟩, if_pos hq, h.tree.current_enter (h.place line)]
  · rw [if_neg fun hc => hq hc.1, if_neg hq]
    exact h.tree.current_enter_of_placed (h.place line) (h.place q)

/-- Using a guard moves the lines in the scope that is left, to the nearest scope around it that is
entered; used again, a guard moves no line. -/
theorem InTree.current_exit (h : a.InTree) (line serial q : Nat) :
    (a.perform line (.exit serial)).1.current q =
      if a.stack.IsGuarded serial ∧ a.current q = serial then a.stack.fallback serial
      else a.current q := by
  show (a.stack.exit (a.place line) serial).1.current
    (((a.places.set line (a.stack.exit (a.place line) serial).2)[q]?).getD none) = _
  rw [place_set]
  rcases h.tree.exit_cases (a.place line) serial with ⟨hg, heq⟩ | ⟨s, hg, hs, heq⟩
  · have hstays : ¬ (a.stack.IsGuarded serial ∧ a.current q = serial) := fun hc => hg hc.1
    rw [heq, if_neg hstays]
    split
    next hq =>
      rw [hq.1]
      rfl
    next => rfl
  · rw [heq]
    have hleave := h.tree.current_leave hg hs (h.place q)
    have hmoved : a.stack.IsGuarded serial ∧ a.current q = serial ↔
        a.stack.current (a.place q) = serial := ⟨fun hc => hc.2, fun hc => ⟨hg, hc⟩⟩
    rw [if_congr hmoved rfl rfl]
    show _ = ite _ _ (a.stack.current (a.place q))
    rw [← hleave]
    split
    next hq =>
      rw [hq.1]
      exact h.tree.current_placeAfter hg hs (a.place line)
    next => rfl

/-- Actions other than entering a scope and using a guard move no line. -/
theorem current_stays (a : Access) (line : Nat) (henter : action ≠ .enter)
    (hexit : ∀ serial, action ≠ .exit serial) {q : Nat} (hq : q < a.places.length) :
    (a.perform line action).1.current q = a.current q := by
  have hstep := perform_scopes a line action
  unfold current place
  generalize (a.perform line action).1.stack = t at hstep
  generalize (a.perform line action).1.places = places at hstep
  cases hstep with
  | kept => rfl
  | changed hc => rw [ScopeStack.current_changes hc]
  | entered => exact absurd rfl henter
  | exited serial => exact absurd rfl (hexit serial)
  | branched inherits => rw [List.getElem?_append_left hq]

/-! ### All steps of all runs -/

/-- In every state that a run comes to: entering a scope puts the line that enters it into the new scope,
within its previous one, and moves no other; the first use of a scope's guard, by any line, moves those
lines whose current scope it was, to the nearest scope around it that is still entered or else to the
root, and later uses move no line; no other action moves a line. -/
theorem current_after_step (c : Catalog) (m : Matcher) (acts : List (Nat × Action)) (line : Nat) :
    let a := ((separate c m).run acts).1
    let new := a.stack.scopes.length
    (line < a.places.length →
      (a.perform line .enter).2 = .ok (.scope new) ∧ a.stack.scope? new = none ∧
      (a.perform line .enter).1.current line = new ∧
      ((a.perform line .enter).1.stack.scope? new).map Scope.parent = some (some (a.current line)) ∧
      ∀ q, q ≠ line → (a.perform line .enter).1.current q = a.current q) ∧
    (∀ serial q, (a.perform line (.exit serial)).1.current q =
      if a.stack.IsGuarded serial ∧ a.current q = serial then a.stack.fallback serial
      else a.current q) ∧
    (∀ action, action ≠ .enter → (∀ serial, action ≠ .exit serial) →
      ∀ q < a.places.length, (a.perform line action).1.current q = a.current q) := by
  intro a new
  have h : a.InTree := (inTree_separate c m).run acts
  refine ⟨fun hline => ⟨rfl, ?_, ?_, ?_, ?_⟩, ?_, ?_⟩
  · exact List.getElem?_eq_none (Nat.le_refl _)
  · rw [h.current_enter hline, if_pos rfl]
  · obtain ⟨outer, houter⟩ := h.tree.current_exists (h.place line)
    show ((a.stack.enter (a.place line)).1.scope? new).map Scope.parent = _
    rw [ScopeStack.scope?_enter, if_pos rfl, ScopeStack.scope_of_scope? houter, Option.map_some]
    exact congrArg (some ∘ some) (h.tree.serial houter)
  · intro q hq
    rw [h.current_enter hline, if_neg hq]
  · exact fun serial q => h.current_exit line serial q
  · exact fun action henter hexit q hq => current_stays a line henter hexit hq

theorem current_after_step_nested :
    let acts : List (Nat × Action) := [(0, .enter), (0, .branch true), (1, .enter), (0, .exit 1)]
    let a := ((separate [] .standard).run acts).1
    1 < a.places.length ∧ a.current 1 = 2 ∧ (a.perform 1 .enter).1.current 1 = 3 :=
  ⟨by decide, by decide, ((current_after_step [] .standard _ 1).1 (by decide)).2.2.1⟩

end Access

end RowAccess
