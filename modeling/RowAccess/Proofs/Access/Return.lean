import Mathlib.Data.List.Basic
import Mathlib.Tactic.Common
import RowAccess.Proofs.Access.Version
import RowAccess.Proofs.Access.CurrentScope
import RowAccess.Proofs.Scope.SightStep
import RowAccess.Proofs.Scope.Through

/-!
# Coming back to a scope

A line that enters a scope comes back to the one that it was in as soon as all scopes that it entered since
are left, in whatever order and by whatever lines, unless the one that it was in was left too. What other
lines enter has no part in it.
-/

namespace RowAccess

namespace Access

open ScopeStack (Through)

/-- The number of the scope that a line enters with a step of some line, if it enters one. -/
def entering (a : Access) (line other : Nat) : Action → List Nat
  | .enter => if other = line then [a.stack.scopes.length] else []
  | _ => []

/-- The numbers of the scopes that a line enters in a run. -/
def entersOf (a : Access) (line : Nat) : List (Nat × Action) → List Nat
  | [] => []
  | (other, action) :: rest =>
      a.entering line other action ++ (a.perform other action).1.entersOf line rest

variable {a : Access} {line other x : Nat} {action : Action} {own : List Nat}

/-! ### Left for good -/

theorem ScopeStep.left {t : ScopeStack} {places : List Place} (h : ScopeStep a line action t places) {n : Nat}
    (hn : n ∈ a.stack.left) : n ∈ t.left := by
  cases h with
  | kept => exact hn
  | changed hc => exact hc.frame.2.2.2 ▸ hn
  | entered => exact hn
  | exited serial =>
    unfold ScopeStack.exit
    cases a.stack.scope? serial with
    | none => exact hn
    | some s =>
      dsimp only
      split
      · exact hn
      · exact List.mem_append_left _ hn
  | branched => exact hn

theorem left_run {n : Nat} (acts : List (Nat × Action)) (hn : n ∈ a.stack.left) :
    n ∈ (a.run acts).1.stack.left := by
  induction acts generalizing a with
  | nil => exact hn
  | cons step rest ih => exact ih ((perform_scopes a step.1 step.2).left hn)

/-- A scope that will not have been left is entered now, unless it is the root. -/
theorem isEntered_of_run (acts : List (Nat × Action))
    (hx : x = Scope.rootSerial ∨ x ∉ (a.run acts).1.stack.left) :
    x = Scope.rootSerial ∨ a.stack.isEntered x = true := by
  by_cases hroot : x = Scope.rootSerial
  · exact .inl hroot
  · exact .inr (ScopeStack.isEntered_iff.mpr
      ⟨hroot, fun hleft => hx.resolve_left hroot (left_run acts hleft)⟩)

/-! ### One step -/

/-- A step keeps a line on its way in from a scope, if this is not left; a scope that the line enters is one
more on its way. -/
theorem ScopeStep.through {t : ScopeStack} {places : List Place} (hs : ScopeStep a other action t places)
    (h : a.InTree) (hline : line < a.places.length) (hin : a.stack.Through x own (a.place line))
    (hnow : x = Scope.rootSerial ∨ a.stack.isEntered x = true)
    (hthen : x = Scope.rootSerial ∨ x ∉ t.left) :
    t.Through x (a.entering line other action ++ own) ((places[line]?).getD none) := by
  have hmore : ∀ n ∈ own, n ∈ a.entering line other action ++ own :=
    fun n hn => List.mem_append_right _ hn
  cases hs with
  | kept => exact hin.mono hmore
  | changed hc =>
    exact (hin.congr fun s hs => hc.path hs).mono hmore
  | entered =>
    rw [place_set]
    by_cases hother : line = other
    · subst hother
      rw [if_pos ⟨rfl, hline⟩]
      refine (hin.enter h.tree (h.place line) hnow).mono ?_
      simp [entering]
    · rw [if_neg fun hc => hother hc.1]
      exact (hin.congr fun s hs => ⟨s, ScopeStack.scope?_enter_of_scope? hs, rfl⟩).mono hmore
  | exited serial =>
    rw [place_set]
    split
    next hother => exact (Through.exit_own (hother.1 ▸ hin) h.tree serial hthen).mono hmore
    next => exact (hin.exit h.tree (a.place other) serial).mono hmore
  | branched inherits =>
    rw [List.getElem?_append_left hline]
    exact hin.mono hmore

/-! ### Runs -/

/-- A line on its way in from a scope is in it again when all scopes on its way, and all that it entered
later, are left. -/
theorem InTree.current_eq_of_left (acts : List (Nat × Action)) (h : a.InTree)
    (hline : line < a.places.length) (hin : a.stack.Through x own (a.place line))
    (hx : x = Scope.rootSerial ∨ x ∉ (a.run acts).1.stack.left)
    (hall : ∀ n ∈ a.entersOf line acts ++ own, n ∈ (a.run acts).1.stack.left) :
    (a.run acts).1.current line = x := by
  induction acts generalizing a own with
  | nil =>
    exact hin.current_eq h.tree (h.place line) (isEntered_of_run [] hx) hall
  | cons step rest ih =>
    obtain ⟨other, action⟩ := step
    have hthen : x = Scope.rootSerial ∨ x ∉ (a.perform other action).1.stack.left :=
      hx.imp_right fun hnot hleft => hnot (left_run rest hleft)
    have hstep := (perform_scopes a other action).through h hline hin
      (isEntered_of_run ((other, action) :: rest) hx) hthen
    refine ih (h.perform other action) (lt_length_perform hline other action) hstep hx fun n hn => hall n ?_
    rw [entersOf]
    simp only [List.mem_append] at hn ⊢
    tauto

/-- A scope is left for good once its guard was used, by any line. -/
theorem InTree.mem_left_exit (h : a.InTree) (line : Nat) {n : Nat} (hn : n < a.stack.scopes.length)
    (hroot : n ≠ Scope.rootSerial) : n ∈ (a.perform line (.exit n)).1.stack.left := by
  show n ∈ (a.stack.exit (a.place line) n).1.left
  rcases h.tree.exit_cases (a.place line) n with ⟨hg, heq⟩ | ⟨s, -, -, heq⟩
  · rw [heq]
    by_contra hnot
    exact hg ⟨hn, ScopeStack.isEntered_iff.mpr ⟨hroot, hnot⟩⟩
  · rw [heq]
    exact List.mem_append_right _ (List.mem_singleton_self _)

/-- No scope is forgotten. -/
theorem ScopeStep.length_scopes {t : ScopeStack} {places : List Place} (h : ScopeStep a line action t places) :
    a.stack.scopes.length ≤ t.scopes.length := by
  cases h with
  | kept => exact Nat.le_refl _
  | changed hc => exact Nat.le_of_eq hc.frame.1.symm
  | entered =>
    show _ ≤ (a.stack.scopes ++ [_]).length
    rw [List.length_append]
    exact Nat.le_add_right _ _
  | exited serial => exact Nat.le_of_eq (congrArg List.length (ScopeStack.scopes_exit ..).symm)
  | branched => exact Nat.le_refl _

theorem length_scopes_run (a : Access) (acts : List (Nat × Action)) :
    a.stack.scopes.length ≤ (a.run acts).1.stack.scopes.length := by
  induction acts generalizing a with
  | nil => exact Nat.le_refl _
  | cons step rest ih => exact Nat.le_trans (perform_scopes a step.1 step.2).length_scopes (ih _)

theorem entersOf_append (a : Access) (line : Nat) (acts more : List (Nat × Action)) :
    a.entersOf line (acts ++ more) = a.entersOf line acts ++ (a.run acts).1.entersOf line more := by
  induction acts generalizing a with
  | nil => rfl
  | cons step rest ih =>
    show a.entering line step.1 step.2 ++ (a.perform step.1 step.2).1.entersOf line (rest ++ more) = _
    rw [ih, ← List.append_assoc]
    rfl

/-- The steps of a line that does something in a scope of its own: it enters the scope, and uses its guard
behind all that is done meanwhile. -/
def withScope (a : Access) (line : Nat) (body : List (Nat × Action)) : List (Nat × Action) :=
  (line, .enter) :: body ++ [(line, .exit a.stack.scopes.length)]

/-- A line that entered a scope is back where it was when all scopes that it entered since are left. -/
theorem InTree.current_restored (h : a.InTree) (hline : line < a.places.length) {steps : List (Nat × Action)}
    (hx : a.current line = Scope.rootSerial ∨
      a.current line ∉ (a.run ((line, .enter) :: steps)).1.stack.left)
    (hall : ∀ n ∈ a.entersOf line ((line, .enter) :: steps),
      n ∈ (a.run ((line, .enter) :: steps)).1.stack.left) :
    (a.run ((line, .enter) :: steps)).1.current line = a.current line := by
  have hplace : (a.perform line .enter).1.place line = (a.stack.enter (a.place line)).2.1 := by
    show ((a.places.set line _)[line]?).getD none = _
    rw [place_set, if_pos ⟨rfl, hline⟩]
    rfl
  have hin : (a.perform line .enter).1.stack.Through (a.current line) [a.stack.scopes.length]
      ((a.perform line .enter).1.place line) := by
    rw [hplace]
    exact h.tree.through_enter (h.place line)
  refine (h.perform line .enter).current_eq_of_left steps (lt_length_perform hline line .enter) hin hx ?_
  intro n hn
  refine hall n ?_
  rw [entersOf, entering, if_pos rfl]
  simp only [List.mem_append] at hn ⊢
  exact hn.symm

/-- What is done in a scope of its own enters no scopes but the line's own one and those of the body. -/
theorem InTree.left_withScope (h : a.InTree) {body : List (Nat × Action)}
    (hbody : ∀ n ∈ (a.perform line .enter).1.entersOf line body,
      n ∈ (a.run (a.withScope line body)).1.stack.left) :
    ∀ n ∈ a.entersOf line (a.withScope line body), n ∈ (a.run (a.withScope line body)).1.stack.left := by
  intro n hn
  unfold withScope at hn hbody ⊢
  rw [entersOf_append, List.mem_append] at hn
  rcases hn with hn | hn
  · rw [entersOf, entering, if_pos rfl] at hn
    rcases List.mem_append.mp hn with hn | hn
    · rw [List.mem_singleton.mp hn, run_append]
      refine ((h.run _).mem_left_exit line ?_ h.tree.length_ne_root)
      have hnew : a.stack.scopes.length < (a.perform line .enter).1.stack.scopes.length := by
        show _ < (a.stack.scopes ++ [_]).length
        rw [List.length_append]
        exact Nat.lt_succ_self _
      exact Nat.lt_of_lt_of_le hnew (length_scopes_run _ body)
    · exact hbody n hn
  · cases hn

/-- In every state that a run comes to, a line that enters a scope is in its previous scope again as soon as all
scopes that it entered since are left, by whatever lines and in whatever order, unless the previous one is not
the root and was left too. So it is behind what a line does in a scope of its own. -/
theorem current_after_leaving (c : Catalog) (m : Matcher) (before : List (Nat × Action)) (line : Nat) :
    let a := ((separate c m).run before).1
    let x := a.current line
    line < a.places.length →
      (∀ steps : List (Nat × Action),
        let b := (a.run ((line, .enter) :: steps)).1
        (x = Scope.rootSerial ∨ x ∉ b.stack.left) →
          (∀ n ∈ a.entersOf line ((line, .enter) :: steps), n ∈ b.stack.left) → b.current line = x) ∧
      ∀ body : List (Nat × Action),
        let b := (a.run (a.withScope line body)).1
        (x = Scope.rootSerial ∨ x ∉ b.stack.left) →
          (∀ n ∈ (a.perform line .enter).1.entersOf line body, n ∈ b.stack.left) → b.current line = x := by
  intro a x hline
  have h : a.InTree := (inTree_separate c m).run before
  exact ⟨fun steps hx hall => h.current_restored hline hx hall,
    fun body hx hbody => h.current_restored hline hx (h.left_withScope hbody)⟩

/-- A line enters one more scope; the other line leaves its first scope for it, and it leaves the second one
itself. -/
def leftByOther : List (Nat × Action) :=
  [(1, .enter), (0, .exit 2), (1, .exit 3)]

theorem current_after_leaving_leftByOther :
    let a := ((separate [] .standard).run [(0, .enter), (0, .branch true)]).1
    (1 < a.places.length ∧ (a.current 1 = Scope.rootSerial ∨
        a.current 1 ∉ (a.run ((1, .enter) :: leftByOther)).1.stack.left) ∧
      (∀ n ∈ a.entersOf 1 ((1, .enter) :: leftByOther),
        n ∈ (a.run ((1, .enter) :: leftByOther)).1.stack.left) ∧
      (a.run ((1, .enter) :: leftByOther)).1.current 1 = a.current 1) ∧
    (a.run (a.withScope 1 [(1, .enter), (0, .exit 3)])).1.current 1 = a.current 1 := by
  have h := current_after_leaving [] .standard [(0, .enter), (0, .branch true)] 1 (by decide)
  refine ⟨⟨by decide, by decide, by decide, h.1 leftByOther (by decide) (by decide)⟩, ?_⟩
  exact h.2 [(1, .enter), (0, .exit 3)] (by decide) (by decide)

end Access

end RowAccess
