import Mathlib.Data.List.Basic
import Mathlib.Tactic.Common
import RowAccess.Proofs.Scope.Current

/-!
# Places further in

A line that went further in from a scope is at a path that goes through this scope, and through the scopes
that the line entered on its way. `ScopeStack.Through` says so of a place. No step of any line breaks it, as
long as the scope itself is not left: the line comes out along the scopes that it entered, and from a path
that is stale it is looked up along the same ones.
-/

namespace RowAccess

namespace ScopeStack

/-- A place that is in a scope, or further in along some of the scopes `own`. -/
inductive Through (t : ScopeStack) (x : Nat) (own : List Nat) : Place → Prop
  | out (hx : x = Scope.rootSerial) : Through t x own none
  | within {s : Scope} {inner : ScopePath} (hs : t.scope? x = some s) (hinner : ∀ n ∈ inner, n ∈ own) :
      Through t x own (some (inner ++ s.path))

variable {t t' : ScopeStack} {x n : Nat} {s : Scope} {own own' : List Nat} {place : Place}

theorem Through.mono (h : t.Through x own place) (hown : ∀ n ∈ own, n ∈ own') :
    t.Through x own' place := by
  cases h with
  | out hx => exact .out hx
  | within hs hinner => exact .within hs fun n hn => hown n (hinner n hn)

/-- Only the path of the scope matters. -/
theorem Through.congr (h : t.Through x own place)
    (hpath : ∀ s, t.scope? x = some s → ∃ s', t'.scope? x = some s' ∧ s'.path = s.path) :
    t'.Through x own place := by
  cases h with
  | out hx => exact .out hx
  | within hs hinner =>
    obtain ⟨s', hs', heq⟩ := hpath _ hs
    rw [← heq]
    exact .within hs' hinner

/-! ### Parts of a path -/

/-- A path goes through the paths of all scopes on it. -/
theorem Tree.path_from (h : t.Tree) (hs : t.scope? n = some s) {inner outer : ScopePath} {m : Nat}
    (hpath : s.path = inner ++ m :: outer) : ∃ q, t.scope? m = some q ∧ q.path = m :: outer := by
  induction n using Nat.strongRecOn generalizing s inner with
  | ind n ih =>
    cases inner with
    | nil =>
      have hhead := h.path_head hs
      rw [hpath, List.nil_append, List.head?_cons] at hhead
      obtain rfl := Option.some.inj hhead
      exact ⟨s, hs, hpath⟩
    | cons k inner =>
      by_cases hn : n = Scope.rootSerial
      · subst hn
        obtain ⟨r, hr, -, hroot⟩ := h.root
        obtain rfl := Option.some.inj (hs.symm.trans hr)
        rw [hroot] at hpath
        obtain ⟨-, hnil⟩ := List.cons_eq_cons.mp hpath
        simp at hnil
      · obtain ⟨p, q, hlt, hq, -, hcons⟩ := h.child hs hn
        rw [hcons, List.cons_append] at hpath
        exact ih p hlt hq (List.cons_eq_cons.mp hpath).2

/-- Only the root's own path is the end of the root's path. -/
theorem Tree.eq_root_of_path (h : t.Tree) (hs : t.scope? x = some s) {inner : ScopePath}
    (hpath : inner ++ s.path = [Scope.rootSerial]) : x = Scope.rootSerial := by
  have hhead := h.path_head hs
  cases inner with
  | nil =>
    rw [List.nil_append] at hpath
    rw [hpath] at hhead
    exact (Option.some.inj hhead).symm
  | cons k inner =>
    obtain ⟨-, hnil⟩ := List.cons_eq_cons.mp hpath
    rw [(List.append_eq_nil_iff.mp hnil).2] at hhead
    cases hhead

/-! ### Where such a place comes to -/

/-- The nearest entered scope is one of those further in, or the scope itself, if that was not left. -/
theorem Through.current_cases (h : t.Through x own place) (ht : t.Tree) (hp : t.Placed place)
    (hx : x = Scope.rootSerial ∨ t.isEntered x = true) :
    t.current place = x ∨ t.isEntered (t.current place) = true ∧
      ∃ s inner q, t.scope? x = some s ∧ t.scope? (t.current place) = some q ∧
        q.path = t.current place :: (inner ++ s.path) ∧ ∀ n ∈ t.current place :: inner, n ∈ own := by
  cases h with
  | out hroot => exact .inl hroot.symm
  | @within s inner hs hinner =>
    obtain ⟨m, q, -, hq, hpath⟩ := hp _ rfl
    have hcurrent : t.current (some (inner ++ s.path)) =
        ((inner ++ s.path).find? t.isEntered).getD Scope.rootSerial := by
      show t.nearest (inner ++ s.path) = _
      rw [← hpath, ht.nearest_eq hq]
    rw [hcurrent, List.find?_append]
    cases hfind : inner.find? t.isEntered with
    | none =>
      refine .inl ?_
      rw [Option.none_or, ← ht.nearest_eq hs]
      rcases hx with rfl | hx
      · exact ht.nearest_root hs
      · exact ht.nearest_entered hs hx
    | some k =>
      obtain ⟨front, back, hsplit, -⟩ := (List.find?_eq_some_iff_append.mp hfind).2
      rw [hsplit, List.append_assoc, List.cons_append] at hpath
      obtain ⟨q', hq', hpath'⟩ := ht.path_from hq hpath
      refine .inr ⟨List.find?_some hfind, s, back, q', hs, hq', hpath', ?_⟩
      intro n hn
      exact hinner n (hsplit ▸ List.mem_append_right front hn)

/-- Where all scopes further in are left, the line is in the scope again. -/
theorem Through.current_eq (h : t.Through x own place) (ht : t.Tree) (hp : t.Placed place)
    (hx : x = Scope.rootSerial ∨ t.isEntered x = true) (hown : ∀ n ∈ own, n ∈ t.left) :
    t.current place = x := by
  rcases h.current_cases ht hp hx with heq | ⟨hentered, s, inner, q, -, -, -, hmem⟩
  · exact heq
  · exact absurd (hown _ (hmem _ List.mem_cons_self)) (isEntered_iff.mp hentered).2

/-! ### Steps -/

/-- A line that enters a scope is one scope further in than where it was. -/
theorem Tree.through_enter (ht : t.Tree) (hp : t.Placed place) :
    (t.enter place).1.Through (t.current place) [t.scopes.length] (t.enter place).2.1 := by
  have hnew : (t.enter place).2.1 = some ([t.scopes.length] ++ (t.scope (t.current place)).path) := rfl
  obtain ⟨q, hq⟩ := ht.current_exists hp
  rw [hnew, scope_of_scope? hq]
  exact .within (scope?_enter_of_scope? hq) fun n hn => hn

/-- A line that enters a scope is further in than before. -/
theorem Through.enter (h : t.Through x own place) (ht : t.Tree) (hp : t.Placed place)
    (hx : x = Scope.rootSerial ∨ t.isEntered x = true) :
    (t.enter place).1.Through x (t.scopes.length :: own) (t.enter place).2.1 := by
  rcases h.current_cases ht hp hx with heq | ⟨-, s, inner, q, hs, hq, hpath, hmem⟩
  · have hfirst := ht.through_enter hp
    rw [heq] at hfirst
    exact hfirst.mono fun n hn => List.mem_singleton.mp hn ▸ List.mem_cons_self
  · have hnew : (t.enter place).2.1 = some (t.scopes.length :: (t.scope (t.current place)).path) := rfl
    rw [hnew, scope_of_scope? hq, hpath]
    show Through _ x _ (some ((t.scopes.length :: t.current place :: inner) ++ s.path))
    refine .within (scope?_enter_of_scope? hs) fun n hn => ?_
    rcases List.mem_cons.mp hn with rfl | hn
    · exact List.mem_cons_self
    · exact List.mem_cons_of_mem _ (hmem n hn)

/-- A line that uses the guard of another scope comes out along those further in. -/
theorem Through.placeAfter {serial : Nat} (h : t.Through x own place) (ht : t.Tree)
    (hg : t.IsGuarded serial) (hs : t.scope? serial = some s) (hne : serial ≠ x) :
    t.Through x own (placeAfter s place) := by
  unfold ScopeStack.placeAfter
  split
  next hplace =>
    cases h with
    | out hx => cases hplace
    | @within sx inner hsx hinner =>
      have hpath : inner ++ sx.path = s.path := Option.some.inj hplace
      cases inner with
      | nil => exact absurd (ht.path_inj hs hsx hpath.symm) hne
      | cons k inner =>
        obtain ⟨p, q, -, hq, hparent, hcons⟩ := ht.child hs (isEntered_iff.mp hg.2).1
        rw [hcons, List.cons_append] at hpath
        obtain ⟨rfl, htail⟩ := List.cons_eq_cons.mp hpath
        rw [hcons, List.tail_cons, hparent, ← htail]
        split
        next hroot =>
          obtain rfl : p = Scope.rootSerial := by simpa using hroot
          obtain ⟨r, hr, -, hrpath⟩ := ht.root
          obtain rfl := Option.some.inj (hq.symm.trans hr)
          exact .out (ht.eq_root_of_path hsx (htail.trans hrpath))
        next => exact .within hsx fun n hn => hinner n (List.mem_cons_of_mem _ hn)
  next => exact h

/-- Whatever guard a line uses, the places of the other lines are as far in as they were. -/
theorem Through.exit (h : t.Through x own place) (ht : t.Tree) (line : Place) (serial : Nat) :
    (t.exit line serial).1.Through x own place := by
  rcases ht.exit_cases line serial with ⟨-, heq⟩ | ⟨s, -, -, heq⟩
  · rwa [heq]
  · rw [heq]
    exact h.congr fun s hs => ⟨s, hs, rfl⟩

/-- A line that uses a guard stays on its way in from a scope that is not left by that. -/
theorem Through.exit_own (h : t.Through x own place) (ht : t.Tree) (serial : Nat)
    (hx : x = Scope.rootSerial ∨ x ∉ (t.exit place serial).1.left) :
    (t.exit place serial).1.Through x own (t.exit place serial).2 := by
  rcases ht.exit_cases place serial with ⟨-, heq⟩ | ⟨s, hg, hs, heq⟩
  · rwa [heq]
  · rw [heq] at hx ⊢
    have hne : serial ≠ x := by
      rintro rfl
      rcases hx with hroot | hnot
      · exact (isEntered_iff.mp hg.2).1 hroot
      · exact hnot (List.mem_append_right _ (List.mem_singleton_self _))
    exact (h.placeAfter ht hg hs hne).congr fun s hs => ⟨s, hs, rfl⟩

end ScopeStack

end RowAccess
