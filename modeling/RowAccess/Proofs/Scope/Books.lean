import Mathlib.Algebra.Ring.Nat
import Mathlib.Data.List.Nodup
import Mathlib.Tactic.Common
import RowAccess.Proofs.Scope.Current

/-!
# The books of the stack

A tally counts the scopes that were made and keeps the guards that were used, each of them once. The books
of a stack are in order with a tally if its counters come to what the tally says: as many scopes are entered
as were made and not left, and the epoch is the sum of all that was counted, with the revisions of all scopes.
-/

namespace RowAccess

/-- What was done to a stack: how many scopes were made, and whose guards were used. -/
structure Tally where
  made : Nat
  /-- The guards that were used, in the order of their first uses. -/
  used : List Nat
deriving Repr, DecidableEq

namespace Tally

def enter (y : Tally) : Tally := { y with made := y.made + 1 }

/-- Whether there is a guard with a number that was not used yet. The scopes made are numbered from one. -/
def HasGuard (y : Tally) (serial : Nat) : Prop :=
  serial ≠ Scope.rootSerial ∧ serial ≤ y.made ∧ serial ∉ y.used

instance (y : Tally) (serial : Nat) : Decidable (y.HasGuard serial) :=
  inferInstanceAs (Decidable (_ ∧ _))

/-- Uses a guard, where there is one. -/
def exit (y : Tally) (serial : Nat) : Tally :=
  if y.HasGuard serial then { y with used := y.used ++ [serial] } else y

end Tally

namespace ScopeStack

variable {t t' : ScopeStack} {y : Tally} {n serial : Nat} {s : Scope} {place : Place}

/-! ### Revisions -/

/-- The revisions of all scopes together, the root and scopes that were left included. -/
def revisions (t : ScopeStack) : Nat := (t.scopes.map Scope.revision).sum

/-- One summand is exchanged for another. -/
theorem sum_map_set {f : Scope → Nat} {s' : Scope} :
    ∀ {l : List Scope} {n : Nat}, l[n]? = some s →
      ((l.set n s').map f).sum + f s = (l.map f).sum + f s'
  | [], _, h => by cases h
  | s₀ :: rest, 0, h => by
      cases h
      simp only [List.set_cons_zero, List.map_cons, List.sum_cons]
      omega
  | s₀ :: rest, n + 1, h => by
      have ih : ((rest.set n s').map f).sum + f s = (rest.map f).sum + f s' := sum_map_set h
      simp only [List.set_cons_succ, List.map_cons, List.sum_cons]
      omega

theorem revisions_update (h : t.scope? serial = some s) (s' : Scope) :
    (t.update serial s').revisions + s.revision = t.revisions + s'.revision :=
  sum_map_set h

theorem revisions_enter (t : ScopeStack) (place : Place) : (t.enter place).1.revisions = t.revisions := by
  show ((t.scopes ++ [Scope.within (t.scope (t.current place)) t.scopes.length]).map Scope.revision).sum = _
  rw [List.map_append, List.sum_append]
  rfl

/-- The epoch moves as far as the revisions of all scopes. -/
theorem Changes.epoch (h : Changes t serial t') : t'.epoch + t.revisions = t.epoch + t'.revisions := by
  induction h with
  | refl => rfl
  | @update t' _ s hs ih =>
    cases hserial : t'.scope? serial with
    | none =>
      rw [update_of_none hserial]
      exact ih
    | some s₀ =>
      have hle := hs.revision
      have hsum := revisions_update hserial s
      rw [epoch_update, scope_update (scope?_lt hserial)]
      rw [scope_of_scope? hserial] at hle ⊢
      omega

/-! ### Books in order -/

structure Books (t : ScopeStack) (y : Tally) : Prop where
  made : t.scopes.length = y.made + 1
  left : t.left = y.used
  /-- No guard is counted twice. -/
  once : y.used.Nodup
  distinct : t.entered.Nodup
  known : ∀ path ∈ t.entered, ∃ n s, t.scope? n = some s ∧ s.path = path
  count : t.depth + y.used.length = y.made
  epoch : t.epoch = y.made + y.used.length + t.revisions

theorem books_new (m : Matcher) : (new m).Books ⟨0, []⟩ :=
  ⟨rfl, rfl, List.nodup_nil, List.nodup_nil, fun _ h => absurd h List.not_mem_nil, rfl, rfl⟩

/-- Changes of scopes move the epoch and the revisions together. -/
theorem Books.changes (h : t.Books y) (hc : Changes t serial t') : t'.Books y := by
  obtain ⟨hlength, -, hentered, hleft⟩ := hc.frame
  constructor
  · exact hlength.trans h.made
  · exact hleft.trans h.left
  · exact h.once
  · rw [hentered]
    exact h.distinct
  · intro path hpath
    rw [hentered] at hpath
    obtain ⟨n, s, hs, heq⟩ := h.known path hpath
    obtain ⟨s', hs', heq'⟩ := hc.path hs
    exact ⟨n, s', hs', heq'.trans heq⟩
  · show t'.entered.length + y.used.length = y.made
    rw [hentered]
    exact h.count
  · have hmoved := hc.epoch
    have hbefore := h.epoch
    omega

/-- A new scope is one more that was made and one more that is entered. -/
theorem Books.enter (h : t.Books y) (ht : t.Tree) (place : Place) : (t.enter place).1.Books y.enter := by
  have hcount := h.count
  have hepoch := h.epoch
  have hrevisions := revisions_enter t place
  constructor
  · show (t.scopes ++ [_]).length = y.made + 1 + 1
    rw [List.length_append, h.made]
    rfl
  · exact h.left
  · exact h.once
  · show (t.entered ++ [_]).Nodup
    rw [← List.concat_eq_append]
    refine List.Nodup.concat (fun hnew => ?_) h.distinct
    obtain ⟨n, s, hs, heq⟩ := h.known _ hnew
    exact ht.new_path hs _ heq
  · intro path hpath
    rcases List.mem_append.mp hpath with hpath | hpath
    · obtain ⟨n, s, hs, heq⟩ := h.known path hpath
      exact ⟨n, s, scope?_enter_of_scope? hs, heq⟩
    · exact ⟨t.scopes.length, _, scope?_enter_new t place, (List.mem_singleton.mp hpath).symm⟩
  · have hdepth : (t.enter place).1.depth = t.depth + 1 := List.length_append
    show (t.enter place).1.depth + y.used.length = y.made + 1
    omega
  · show t.epoch + 1 = y.made + 1 + y.used.length + (t.enter place).1.revisions
    omega

/-- The tally knows which guards can still be used. -/
theorem Books.isGuarded_iff (h : t.Books y) : t.IsGuarded serial ↔ y.HasGuard serial := by
  unfold IsGuarded Tally.HasGuard
  rw [isEntered_iff, h.made, h.left, Nat.lt_succ_iff]
  exact and_left_comm

/-- A guard that is used for the first time takes one entered scope away and moves the epoch by one. -/
theorem Books.leave (h : t.Books y) (ht : t.Tree) (hg : y.HasGuard serial) (hs : t.scope? serial = some s) :
    (t.leave serial s).Books { y with used := y.used ++ [serial] } := by
  have hentered : s.path ∈ t.entered := (ht.entered hs).mpr (h.isGuarded_iff.mpr hg).2
  have hdepth : (t.leave serial s).depth + 1 = t.depth := by
    show (t.entered.filter fun path => path != s.path).length + 1 = t.entered.length
    rw [← h.distinct.erase_eq_filter, List.length_erase_add_one hentered]
  have hused : (y.used ++ [serial]).length = y.used.length + 1 := List.length_append
  have hcount := h.count
  have hepoch := h.epoch
  constructor
  · exact h.made
  · exact congrArg (· ++ [serial]) h.left
  · rw [← List.concat_eq_append]
    exact List.Nodup.concat hg.2.2 h.once
  · exact h.distinct.filter _
  · exact fun path hpath => h.known path (List.mem_filter.mp hpath).1
  · show (t.leave serial s).depth + (y.used ++ [serial]).length = y.made
    omega
  · show t.epoch + 1 = y.made + (y.used ++ [serial]).length + t.revisions
    omega

theorem Books.exit (h : t.Books y) (ht : t.Tree) (place : Place) (serial : Nat) :
    (t.exit place serial).1.Books (y.exit serial) := by
  unfold Tally.exit
  rcases ht.exit_cases place serial with ⟨hg, heq⟩ | ⟨s, hg, hs, heq⟩
  · rw [heq, if_neg fun hy => hg (h.isGuarded_iff.mpr hy)]
    exact h
  · have hy := h.isGuarded_iff.mp hg
    rw [heq, if_pos hy]
    exact h.leave ht hy hs

/-! ### Paths -/

namespace Tree

/-- A path goes through earlier scopes only. -/
theorem path_le (h : t.Tree) (hs : t.scope? n = some s) : ∀ m ∈ s.path, m ≤ n := by
  refine h.outward (P := fun n s => ∀ m ∈ s.path, m ≤ n) ?_ ?_ hs
  · intro r _ _ hpath m hm
    rw [hpath] at hm
    exact Nat.le_of_eq (List.mem_singleton.mp hm)
  · intro n p s q hlt _ _ _ hpath ih m hm
    rw [hpath] at hm
    rcases List.mem_cons.mp hm with rfl | hm
    · exact Nat.le_refl m
    · exact Nat.le_trans (ih m hm) (Nat.le_of_lt hlt)

/-- From the root in, the numbers on a path increase. -/
theorem ids_increase (h : t.Tree) (hs : t.scope? n = some s) : s.ids.Pairwise (· < ·) := by
  unfold Scope.ids
  rw [List.pairwise_reverse]
  refine h.outward (P := fun _ s => s.path.Pairwise fun m k => k < m) ?_ ?_ hs
  · intro r _ _ hpath
    rw [hpath]
    exact List.pairwise_singleton _ _
  · intro n p s q hlt _ hq _ hpath ih
    rw [hpath]
    refine List.Pairwise.cons (fun m hm => ?_) ih
    exact Nat.lt_of_le_of_lt (h.path_le hq m hm) hlt

/-- A path begins at the root. -/
theorem ids_head? (h : t.Tree) (hs : t.scope? n = some s) : s.ids.head? = some Scope.rootSerial := by
  unfold Scope.ids
  rw [List.head?_reverse]
  refine h.outward (P := fun _ s => s.path.getLast? = some Scope.rootSerial) ?_ ?_ hs
  · intro r _ _ hpath
    rw [hpath]
    rfl
  · intro n p s q _ _ _ _ hpath ih
    rw [hpath, List.getLast?_cons, ih]
    rfl

/-- The path of a scope is the path of its parent with its own number behind it. -/
theorem ids_parent (h : t.Tree) (hs : t.scope? n = some s) :
    n = Scope.rootSerial ∧ s.parent = none ∧ s.ids = [Scope.rootSerial] ∨
      ∃ q ∈ t.scopes, s.parent = some q.serial ∧ s.ids = q.ids ++ [s.serial] := by
  by_cases hn : n = Scope.rootSerial
  · subst hn
    obtain ⟨r, hr, hparent, hpath⟩ := h.root
    obtain rfl := Option.some.inj (hs.symm.trans hr)
    exact .inl ⟨rfl, hparent, congrArg List.reverse hpath⟩
  · obtain ⟨p, q, -, hq, hparent, hpath⟩ := h.child hs hn
    refine .inr ⟨q, List.mem_of_getElem? hq, ?_, ?_⟩
    · rw [hparent, h.serial hq]
    · rw [Scope.ids, hpath, List.reverse_cons, h.serial hs]
      rfl

/-- Scopes are numbered as they were made. -/
theorem serials (h : t.Tree) : t.scopes.map Scope.serial = List.range t.scopes.length := by
  apply List.ext_getElem?
  intro n
  rw [List.getElem?_map]
  by_cases hlt : n < t.scopes.length
  · rw [List.getElem?_range hlt, List.getElem?_eq_getElem hlt, Option.map_some,
      h.serial (List.getElem?_eq_getElem hlt)]
  · have hle := Nat.le_of_not_lt hlt
    rw [List.getElem?_eq_none hle, List.getElem?_eq_none (by rwa [List.length_range]), Option.map_none]

end Tree

end ScopeStack

end RowAccess
