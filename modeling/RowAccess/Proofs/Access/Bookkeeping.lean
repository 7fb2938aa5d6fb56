import Mathlib.Data.List.Nodup
import Mathlib.Tactic.Common
import RowAccess.Proofs.Access.CurrentScope
import RowAccess.Proofs.Scope.Books

/-!
# The books over a run

The tally of a run is told by its actions alone, whatever lines do them and in whatever order. The counters of
the stack come to the tally after every run. Scopes that were left stay on the books: their revisions still count,
and so do changes of them.
-/

namespace RowAccess

/-- Counts an action. Actions other than entering a scope and using a guard do not count. -/
def Tally.count (y : Tally) : Action → Tally
  | .enter => y.enter
  | .exit serial => y.exit serial
  | _ => y

namespace Access

/-- The tally of a run that begins with a new stack. -/
def tally (acts : List (Nat × Action)) : Tally := acts.foldl (fun y step => y.count step.2) ⟨0, []⟩

variable {a : Access} {line : Nat} {action : Action} {y : Tally}

/-- Actions that do not count change scopes at most. -/
theorem books_stay (h : a.stack.Books y) (henter : action ≠ .enter)
    (hexit : ∀ serial, action ≠ .exit serial) : (a.perform line action).1.stack.Books y := by
  have hstep := perform_scopes a line action
  generalize (a.perform line action).1.stack = t at hstep ⊢
  generalize (a.perform line action).1.places = places at hstep
  cases hstep with
  | kept => exact h
  | changed hc => exact h.changes hc
  | entered => exact absurd rfl henter
  | exited serial => exact absurd rfl (hexit serial)
  | branched => exact h

theorem books_perform (ht : a.InTree) (h : a.stack.Books y) (line : Nat) (action : Action) :
    (a.perform line action).1.stack.Books (y.count action) := by
  cases action with
  | enter => exact h.enter ht.tree (a.place line)
  | exit serial => exact h.exit ht.tree (a.place line) serial
  | _ => exact books_stay h nofun nofun

theorem books_run (acts : List (Nat × Action)) : ∀ {a : Access} {y : Tally}, a.InTree → a.stack.Books y →
    (a.run acts).1.stack.Books (acts.foldl (fun y step => y.count step.2) y) := by
  induction acts with
  | nil => exact fun _ h => h
  | cons step rest ih =>
    intro a y ht h
    exact ih (ht.perform step.1 step.2) (books_perform ht h step.1 step.2)

/-- After every run: the scopes that are entered are as many as were made, less the guards used; the epoch is the
number of scopes made, of guards used and of all changes of scopes; scopes are numbered as they were made, the next
one too; and the path of each scope is that of its parent with its own number behind it, so that it is the lineage
from the root in, with increasing numbers. -/
theorem books_balance (c : Catalog) (m : Matcher) (acts : List (Nat × Action)) :
    let a := ((separate c m).run acts).1
    let y := tally acts
    (a.stack.depth + y.used.length = y.made ∧ y.used.Nodup) ∧
    a.stack.epoch = y.made + y.used.length + (a.stack.scopes.map Scope.revision).sum ∧
    a.stack.scopes.map Scope.serial = List.range (y.made + 1) ∧
    (∀ line, (a.perform line .enter).2 = .ok (.scope (y.made + 1)) ∧
      (a.perform line .enter).1.stack.scopes.map Scope.serial = List.range (y.made + 2)) ∧
    ∀ s ∈ a.stack.scopes,
      (s.serial = Scope.rootSerial ∧ s.parent = none ∧ s.ids = [Scope.rootSerial] ∨
        ∃ q ∈ a.stack.scopes, s.parent = some q.serial ∧ s.ids = q.ids ++ [s.serial]) ∧
      s.ids = ((a.stack.lineage s.serial).map Scope.serial).reverse ∧
      s.ids.Pairwise (· < ·) ∧ s.ids.head? = some Scope.rootSerial := by
  intro a y
  have ht : a.InTree := (inTree_separate c m).run acts
  have h : a.stack.Books y := books_run acts (inTree_separate c m) (ScopeStack.books_new m)
  have hserials : a.stack.scopes.map Scope.serial = List.range (y.made + 1) := by
    rw [ht.tree.serials, h.made]
  refine ⟨⟨h.count, h.once⟩, h.epoch, hserials, fun line => ⟨?_, ?_⟩, fun s hs => ?_⟩
  · show Except.ok (Answer.scope a.stack.scopes.length) = _
    rw [h.made]
  · rw [(ht.perform line .enter).tree.serials, (books_perform ht h line .enter).made]
    rfl
  · obtain ⟨n, hn⟩ := List.mem_iff_getElem?.mp hs
    have hserial : s.serial = n := ht.tree.serial hn
    refine ⟨?_, ?_, ht.tree.ids_increase hn, ht.tree.ids_head? hn⟩
    · rw [hserial]
      have hparent := ht.tree.ids_parent hn
      rwa [hserial] at hparent
    · rw [hserial, ht.tree.lineage_serials hn]
      rfl

/-- A guard that is used again, and one of a scope that was not made, do not count. -/
example : tally [(0, .enter), (1, .exit 1), (0, .exit 1), (0, .exit 2), (0, .enter)] = ⟨2, [1]⟩ := by decide

end Access

end RowAccess
