import Mathlib.Data.List.Basic
import Mathlib.Tactic.Common
import RowAccess.Proofs.Scope.Change

/-!
# The tree of scopes

`ScopeStack.Tree` is what every stack is: scopes are numbered as they were made, each lies within an
earlier one, its path goes through that one out to the root, and it is entered for as long as its guard
was not used. Places may be stale. `nearest` looks a scope up by paths only; on a tree it finds the first
scope on the way out whose guard was not used.
-/

namespace RowAccess

namespace ScopeStack

/-- Whether a scope was entered and its guard was not used. -/
def isEntered (t : ScopeStack) (serial : Nat) : Bool :=
  serial != Scope.rootSerial && !t.left.contains serial

/-- The nearest scope around one that is still entered, or the root. -/
def fallback (t : ScopeStack) (serial : Nat) : Nat :=
  (((t.lineage serial).tail.map Scope.serial).find? t.isEntered).getD Scope.rootSerial

structure Tree (t : ScopeStack) : Prop where
  serial : ∀ {n s}, t.scope? n = some s → s.serial = n
  root : ∃ s, t.scope? Scope.rootSerial = some s ∧ s.parent = none ∧ s.path = [Scope.rootSerial]
  child : ∀ {n s}, t.scope? n = some s → n ≠ Scope.rootSerial →
    ∃ p q, p < n ∧ t.scope? p = some q ∧ s.parent = some p ∧ s.path = n :: q.path
  entered : ∀ {n s}, t.scope? n = some s → (s.path ∈ t.entered ↔ t.isEntered n = true)
  left : ∀ n ∈ t.left, n < t.scopes.length

/-- A place in the tree: none, or the path of a scope that was once entered. -/
def Placed (t : ScopeStack) (place : Place) : Prop :=
  ∀ path, place = some path →
    ∃ n s, n ≠ Scope.rootSerial ∧ t.scope? n = some s ∧ s.path = path

variable {t : ScopeStack} {n m : Nat} {s s' : Scope} {place : Place}

theorem isEntered_iff : t.isEntered n = true ↔ n ≠ Scope.rootSerial ∧ n ∉ t.left := by
  simp [isEntered]

theorem scope?_lt (h : t.scope? n = some s) : n < t.scopes.length :=
  (List.getElem?_eq_some_iff.mp h).1

theorem placed_none (t : ScopeStack) : t.Placed none := fun _ h => by cases h

theorem lineage_of_none (hs : t.scope? n = none) : t.lineage n = [] := by
  rw [lineage]
  simp only [hs]

theorem lineage_root (hs : t.scope? n = some s) (hparent : s.parent = none) : t.lineage n = [s] := by
  rw [lineage]
  simp only [hs, hparent]

/-- A scope sees what its parent sees, and itself first. -/
theorem lineage_child {p : Nat} (hs : t.scope? n = some s) (hparent : s.parent = some p) (hlt : p < n) :
    t.lineage n = s :: t.lineage p := by
  rw [lineage]
  simp only [hs, hparent, dif_pos hlt]

namespace Tree

/-! ### Paths and lineages -/

/-- What holds of the root, and of a scope if it holds of its parent, holds of every scope. -/
theorem outward (h : t.Tree) {P : Nat → Scope → Prop}
    (root : ∀ {r : Scope}, t.scope? Scope.rootSerial = some r → r.parent = none →
      r.path = [Scope.rootSerial] → P Scope.rootSerial r)
    (child : ∀ {n p : Nat} {s q : Scope}, p < n → t.scope? n = some s → t.scope? p = some q →
      s.parent = some p → s.path = n :: q.path → P p q → P n s)
    (hs : t.scope? n = some s) : P n s := by
  induction n using Nat.strongRecOn generalizing s with
  | ind n ih =>
    by_cases hn : n = Scope.rootSerial
    · subst hn
      obtain ⟨r, hr, hparent, hpath⟩ := h.root
      obtain rfl := Option.some.inj (hs.symm.trans hr)
      exact root hs hparent hpath
    · obtain ⟨p, q, hlt, hq, hparent, hpath⟩ := h.child hs hn
      exact child hlt hs hq hparent hpath (ih p hlt hq)

theorem path_head (h : t.Tree) (hs : t.scope? n = some s) : s.path.head? = some n := by
  refine h.outward (P := fun n s => s.path.head? = some n) ?_ ?_ hs
  · intro r _ _ hpath
    rw [hpath]
    rfl
  · intro n p s q _ _ _ _ hpath _
    rw [hpath]
    rfl

/-- Scopes are told apart by their paths. -/
theorem path_inj (h : t.Tree) (hs : t.scope? n = some s) (hs' : t.scope? m = some s')
    (heq : s.path = s'.path) : n = m := by
  have hhead := h.path_head hs
  rw [heq, h.path_head hs'] at hhead
  exact (Option.some.inj hhead).symm

/-- The path of a scope is its lineage. -/
theorem lineage_serials (h : t.Tree) (hs : t.scope? n = some s) :
    (t.lineage n).map Scope.serial = s.path := by
  refine h.outward (P := fun n s => (t.lineage n).map Scope.serial = s.path) ?_ ?_ hs
  · intro r hr hparent hpath
    rw [lineage_root hr hparent, List.map_cons, List.map_nil, h.serial hr, hpath]
  · intro n p s q hlt hs _ hparent hpath ih
    rw [lineage_child hs hparent hlt, List.map_cons, h.serial hs, ih, hpath]

theorem self_mem_lineage (h : t.Tree) (hs : t.scope? n = some s) :
    n ∈ (t.lineage n).map Scope.serial := by
  rw [h.lineage_serials hs]
  exact List.mem_of_head? (h.path_head hs)

/-- With a scope, its lineage has all scopes around it. -/
theorem mem_lineage (h : t.Tree) (hm : m ∈ (t.lineage n).map Scope.serial) :
    ∃ s, t.scope? m = some s ∧ ∀ p, s.parent = some p → p ∈ (t.lineage n).map Scope.serial := by
  induction n using Nat.strongRecOn with
  | ind n ih =>
    cases hs : t.scope? n with
    | none =>
      rw [lineage_of_none hs] at hm
      exact absurd hm List.not_mem_nil
    | some s =>
      by_cases hn : n = Scope.rootSerial
      · subst hn
        obtain ⟨r, hr, hparent, -⟩ := h.root
        obtain rfl := Option.some.inj (hs.symm.trans hr)
        rw [lineage_root hs hparent, List.map_singleton, List.mem_singleton, h.serial hs] at hm
        rw [hm]
        exact ⟨s, hs, fun p hp => by rw [hparent] at hp; cases hp⟩
      · obtain ⟨p, q, hlt, hq, hparent, -⟩ := h.child hs hn
        rw [lineage_child hs hparent hlt, List.map_cons, h.serial hs] at hm ⊢
        rcases List.mem_cons.mp hm with rfl | hm
        · refine ⟨s, hs, fun p' hp' => ?_⟩
          rw [hparent] at hp'
          cases hp'
          exact List.mem_cons_of_mem _ (h.self_mem_lineage hq)
        · obtain ⟨s', hs', hall⟩ := ih p hlt hm
          exact ⟨s', hs', fun p' hp' => List.mem_cons_of_mem _ (hall p' hp')⟩

/-! ### The nearest entered scope -/

theorem nearest_root (h : t.Tree) (hs : t.scope? Scope.rootSerial = some s) :
    t.nearest s.path = Scope.rootSerial := by
  obtain ⟨r, hr, -, hpath⟩ := h.root
  obtain rfl := Option.some.inj (hs.symm.trans hr)
  rw [hpath, nearest]
  split <;> rfl

theorem nearest_entered (h : t.Tree) (hs : t.scope? n = some s) (hn : t.isEntered n = true) :
    t.nearest s.path = n := by
  obtain ⟨p, q, -, -, -, hpath⟩ := h.child hs (isEntered_iff.mp hn).1
  rw [hpath, nearest, if_pos]
  rw [← hpath]
  exact List.contains_iff_mem.mpr ((h.entered hs).mpr hn)

theorem nearest_left (h : t.Tree) (hs : t.scope? n = some s) (hn : t.isEntered n = false)
    {outer : ScopePath} (hpath : s.path = n :: outer) : t.nearest s.path = t.nearest outer := by
  rw [hpath, nearest, if_neg]
  rw [← hpath]
  intro hc
  have hin := (h.entered hs).mp (List.contains_iff_mem.mp hc)
  rw [hn] at hin
  cases hin

/-- On a tree, the nearest scope is the first on the path whose guard was not used. -/
theorem nearest_eq (h : t.Tree) (hs : t.scope? n = some s) :
    t.nearest s.path = (s.path.find? t.isEntered).getD Scope.rootSerial := by
  refine h.outward (P := fun _ s =>
    t.nearest s.path = (s.path.find? t.isEntered).getD Scope.rootSerial) ?_ ?_ hs
  · intro r hr _ hpath
    rw [h.nearest_root hr, hpath, List.find?_cons]
    split <;> rfl
  · intro n p s q _ hs _ _ hpath ih
    cases hin : t.isEntered n with
    | true =>
      rw [h.nearest_entered hs hin, hpath, List.find?_cons, hin]
      rfl
    | false =>
      rw [h.nearest_left hs hin hpath, ih, hpath, List.find?_cons, hin]

/-- Where a scope falls back to is what is nearest on the path of its parent. -/
theorem fallback_eq (h : t.Tree) (hs : t.scope? n = some s) {p : Nat} {q : Scope}
    (hq : t.scope? p = some q) (hpath : s.path = n :: q.path) :
    t.fallback n = t.nearest q.path := by
  unfold fallback
  rw [h.nearest_eq hq, List.map_tail, h.lineage_serials hs, hpath, List.tail_cons]

theorem nearest_exists (h : t.Tree) (hs : t.scope? n = some s) :
    ∃ q, t.scope? (t.nearest s.path) = some q := by
  refine h.outward (P := fun _ s => ∃ q, t.scope? (t.nearest s.path) = some q) ?_ ?_ hs
  · intro r hr _ _
    rw [h.nearest_root hr]
    exact ⟨r, hr⟩
  · intro n p s q _ hs _ _ hpath ih
    cases hin : t.isEntered n with
    | true =>
      rw [h.nearest_entered hs hin]
      exact ⟨s, hs⟩
    | false =>
      rw [h.nearest_left hs hin hpath]
      exact ih

/-- No scope is nearer than the path's own. -/
theorem nearest_le (h : t.Tree) (hs : t.scope? n = some s) : t.nearest s.path ≤ n := by
  refine h.outward (P := fun n s => t.nearest s.path ≤ n) ?_ ?_ hs
  · exact fun hr _ _ => Nat.le_of_eq (h.nearest_root hr)
  · intro n p s q hlt hs _ _ hpath ih
    cases hin : t.isEntered n with
    | true => exact Nat.le_of_eq (h.nearest_entered hs hin)
    | false =>
      rw [h.nearest_left hs hin hpath]
      exact Nat.le_trans ih (Nat.le_of_lt hlt)

/-- The current scope of a place in the tree is a scope. -/
theorem current_exists (h : t.Tree) (hp : t.Placed place) :
    ∃ q, t.scope? (t.current place) = some q := by
  cases place with
  | none =>
    obtain ⟨r, hr, -⟩ := h.root
    exact ⟨r, hr⟩
  | some path =>
    obtain ⟨n, s, -, hs, rfl⟩ := hp path rfl
    exact h.nearest_exists hs

end Tree

/-! ### Changes of scopes -/

/-- Where the same scopes are entered, the same are current. -/
theorem current_congr {t' : ScopeStack} (h : t'.entered = t.entered) : t'.current = t.current := by
  have hnearest : ∀ path, t'.nearest path = t.nearest path := by
    intro path
    induction path with
    | nil => rfl
    | cons n outer ih => rw [nearest, nearest, h, ih]
  funext place
  cases place with
  | none => rfl
  | some path => exact hnearest path

theorem current_changes {t' : ScopeStack} (h : Changes t m t') : t'.current = t.current :=
  current_congr h.frame.2.2.1

theorem isEntered_changes {t' : ScopeStack} (h : Changes t m t') : t'.isEntered = t.isEntered := by
  obtain ⟨-, -, -, hleft⟩ := h.frame
  funext n
  rw [isEntered, isEntered, hleft]

theorem isEntered_update (t : ScopeStack) (serial : Nat) (s : Scope) :
    (t.update serial s).isEntered = t.isEntered := rfl

/-- A change of a scope keeps the tree. -/
theorem Tree.update (h : t.Tree) (hs : (t.scope m).Changed s) : (t.update m s).Tree := by
  -- What a scope of the changed stack shares with the scope that was there.
  have hback : ∀ {n s'}, (t.update m s).scope? n = some s' → ∃ s₀, t.scope? n = some s₀ ∧
      s'.serial = s₀.serial ∧ s'.parent = s₀.parent ∧ s'.path = s₀.path := by
    intro n s' hn
    have hsame : (s.serial, s.parent, s.path) =
        ((t.scope m).serial, (t.scope m).parent, (t.scope m).path) := by
      rw [hs.serial, hs.parent, hs.path]
    have hmap := scope?_update_map (f := fun s => (s.serial, s.parent, s.path)) hsame n
    rw [hn, Option.map_some] at hmap
    obtain ⟨s₀, hs₀, heq⟩ := Option.map_eq_some_iff.mp hmap.symm
    obtain ⟨hserial, hrest⟩ := Prod.mk.inj heq
    obtain ⟨hparent, hpath⟩ := Prod.mk.inj hrest
    exact ⟨s₀, hs₀, hserial.symm, hparent.symm, hpath.symm⟩
  have hforth : ∀ {n s₀}, t.scope? n = some s₀ →
      ∃ s', (t.update m s).scope? n = some s' ∧ s'.parent = s₀.parent ∧ s'.path = s₀.path := by
    intro n s₀ hn
    have hsame : (s.parent, s.path) = ((t.scope m).parent, (t.scope m).path) := by
      rw [hs.parent, hs.path]
    have hmap := scope?_update_map (f := fun s => (s.parent, s.path)) hsame n
    rw [hn, Option.map_some] at hmap
    obtain ⟨s', hs', heq⟩ := Option.map_eq_some_iff.mp hmap
    exact ⟨s', hs', Prod.mk.inj heq⟩
  constructor
  · intro n s' hn
    obtain ⟨s₀, hs₀, hserial, -⟩ := hback hn
    exact hserial.trans (h.serial hs₀)
  · obtain ⟨r, hr, hparent, hpath⟩ := h.root
    obtain ⟨r', hr', hparent', hpath'⟩ := hforth hr
    exact ⟨r', hr', hparent'.trans hparent, hpath'.trans hpath⟩
  · intro n s' hn hne
    obtain ⟨s₀, hs₀, -, hparent', hpath'⟩ := hback hn
    obtain ⟨p, q, hlt, hq, hparent, hpath⟩ := h.child hs₀ hne
    obtain ⟨q', hq', -, hqpath⟩ := hforth hq
    exact ⟨p, q', hlt, hq', hparent'.trans hparent, by rw [hpath', hpath, hqpath]⟩
  · intro n s' hn
    obtain ⟨s₀, hs₀, -, -, hpath'⟩ := hback hn
    rw [hpath', isEntered_update]
    exact h.entered hs₀
  · intro n hn
    have hlen : (t.update m s).scopes.length = t.scopes.length := List.length_set
    rw [hlen]
    exact h.left n hn

theorem Tree.changes {t' : ScopeStack} (h : t.Tree) (hc : Changes t m t') : t'.Tree := by
  induction hc with
  | refl => exact h
  | update _ hs ih => exact ih.update hs

theorem placed_changes {t' : ScopeStack} (hp : t.Placed place) (hc : Changes t m t') :
    t'.Placed place := by
  intro path hpath
  obtain ⟨n, s, hn, hs, rfl⟩ := hp path hpath
  obtain ⟨s', hs', heq⟩ := hc.path hs
  exact ⟨n, s', hn, hs', heq⟩

end ScopeStack

end RowAccess
