import Mathlib.Data.List.Basic
import Mathlib.Tactic.Common
import RowAccess.Proofs.Scope.Current
import RowAccess.Proofs.Sight

/-!
# What one line sees of a stack

`Sight.Alike` compares a stack that a line shares with one that the line has for itself: the scopes it sees
hold the same, lie within each other in the same way and, where it is inside, are entered at the same time.
Only their numbers differ.
-/

namespace RowAccess

/-- Scopes that hold the same, one within the scope of which the other's parent is the original. -/
structure Scope.Alike (f : Nat → Nat) (s s' : Scope) : Prop where
  accessor : s.accessor = s'.accessor
  clearances : s.clearances = s'.clearances
  granted : s.granted = s'.granted
  denied : s.denied = s'.denied
  parent : s.parent = s'.parent.map f

namespace Sight

/-- A stack that the line shares, and one that it has for itself, with the same to see. -/
structure Alike (v : Sight) (t u : ScopeStack) : Prop where
  counts : v.Counts t.scopes.length u.scopes.length
  inside : ∀ n ∈ v.inside, n ∈ v.seen
  root : Scope.rootSerial ∈ v.inside
  matcher : t.matcher = u.matcher
  scope : ∀ {n}, v.Sees n →
    ∃ s s', t.scope? (v.rename n) = some s ∧ u.scope? n = some s' ∧ s.Alike v.rename s'
  parent : ∀ {n s' m}, u.scope? n = some s' → s'.parent = some m →
    (v.Sees n → v.Sees m) ∧ (v.Inside n → v.Inside m)
  entered : ∀ {n}, v.Inside n → t.isEntered (v.rename n) = u.isEntered n

variable {v : Sight} {n m : Nat} {t u : ScopeStack}

/-! ### Numbers -/

theorem Alike.sees_of_inside (h : v.Alike t u) (hn : v.Inside n) : v.Sees n := hn.imp_left (h.inside n)

theorem Alike.inside_root (h : v.Alike t u) : v.Inside Scope.rootSerial := .inl h.root

theorem Alike.rename_root (h : v.Alike t u) : v.rename Scope.rootSerial = Scope.rootSerial :=
  rename_of_lt (h.counts.seen _ (h.inside _ h.root))

theorem Alike.rename_mem_inside (h : v.Alike t u) (hn : v.Inside n) :
    v.rename n ∈ v.inside ++ v.own := by
  rcases hn with hn | hn
  · rw [rename_of_lt (h.counts.seen n (h.inside n hn))]
    exact List.mem_append_left _ hn
  · exact List.mem_append_right _ hn.rename_mem

theorem Alike.rename_ne_root (h : v.Alike t u) (hn : v.Sees n) (hroot : n ≠ Scope.rootSerial) :
    v.rename n ≠ Scope.rootSerial := fun heq =>
  hroot (h.counts.rename_inj hn (h.sees_of_inside h.inside_root) (heq.trans h.rename_root.symm))

/-- Parents correspond. -/
theorem Alike.parent_rename (h : v.Alike t u) (hn : v.Sees n) {s s' : Scope}
    (hs : t.scope? (v.rename n) = some s) (hs' : u.scope? n = some s') {p p' : Nat}
    (hparent' : s'.parent = some p') (hparent : s.parent = some p) : p = v.rename p' := by
  obtain ⟨s₁, s₁', hs₁, hs₁', halike⟩ := h.scope hn
  obtain rfl := Option.some.inj (hs₁.symm.trans hs)
  obtain rfl := Option.some.inj (hs₁'.symm.trans hs')
  have heq := halike.parent
  rw [hparent, hparent'] at heq
  exact Option.some.inj heq

/-- A stack is like itself for a line that sees some scopes and all scopes around them. -/
theorem alike_self {seen inside : List Nat} (hroot : Scope.rootSerial ∈ inside)
    (hsub : ∀ n ∈ inside, n ∈ seen)
    (hseen : ∀ n ∈ seen, ∃ s, t.scope? n = some s ∧ ∀ p, s.parent = some p → p ∈ seen)
    (hinside : ∀ n ∈ inside, ∀ s p, t.scope? n = some s → s.parent = some p → p ∈ inside) :
    (Sight.mk t.scopes.length seen inside []).Alike t t := by
  have hlt : ∀ n ∈ seen, n < t.scopes.length := by
    intro n hn
    obtain ⟨s, hs, -⟩ := hseen n hn
    exact ScopeStack.scope?_lt hs
  have hrename : ∀ {n}, n < t.scopes.length →
      (Sight.mk t.scopes.length seen inside []).rename n = n := fun hn => rename_of_lt hn
  constructor
  · exact .start hlt
  · exact hsub
  · exact hroot
  · rfl
  · intro n hn
    obtain ⟨s, hs, hparents⟩ := hseen n (hn.resolve_right not_made_start)
    rw [hrename (ScopeStack.scope?_lt hs)]
    refine ⟨s, s, hs, hs, rfl, rfl, rfl, rfl, ?_⟩
    cases hp : s.parent with
    | none => rfl
    | some p => exact congrArg some (hrename (hlt p (hparents p hp))).symm
  · intro n s p hs hp
    refine ⟨fun hn => .inl ?_, fun hn => .inl (hinside n (hn.resolve_right not_made_start) s p hs hp)⟩
    obtain ⟨s', hs', hparents⟩ := hseen n (hn.resolve_right not_made_start)
    obtain rfl := Option.some.inj (hs.symm.trans hs')
    exact hparents p hp
  · intro n hn
    rw [hrename (hlt n (hsub n (hn.resolve_right not_made_start)))]

/-! ### Lineages -/

/-- What a scope holds is the same on both lineages. -/
theorem Alike.lineage_map (h : v.Alike t u) (ht : t.Tree) (hu : u.Tree) {β : Type} {f : Scope → β}
    (hf : ∀ {s s'}, s.Alike v.rename s' → f s = f s') (hn : v.Sees n) :
    (t.lineage (v.rename n)).map f = (u.lineage n).map f := by
  induction n using Nat.strongRecOn with
  | ind n ih =>
    obtain ⟨s, s', hs, hs', halike⟩ := h.scope hn
    by_cases hroot : n = Scope.rootSerial
    · subst hroot
      obtain ⟨r, hr, hparent, -⟩ := hu.root
      obtain rfl := Option.some.inj (hs'.symm.trans hr)
      have hparent' : s.parent = none := by rw [halike.parent, hparent, Option.map_none]
      rw [ScopeStack.lineage_root hs hparent', ScopeStack.lineage_root hs' hparent, List.map_singleton,
        List.map_singleton, hf halike]
    · obtain ⟨p, q, hlt, -, hparent, -⟩ := hu.child hs' hroot
      obtain ⟨p', q', hlt', -, hparent', -⟩ := ht.child hs (h.rename_ne_root hn hroot)
      obtain rfl := h.parent_rename hn hs hs' hparent hparent'
      rw [ScopeStack.lineage_child hs hparent' hlt', ScopeStack.lineage_child hs' hparent hlt, List.map_cons,
        List.map_cons, hf halike, ih p hlt ((h.parent hs' hparent).1 hn)]

theorem Alike.effectiveClearances (h : v.Alike t u) (ht : t.Tree) (hu : u.Tree) (hn : v.Sees n) :
    t.effectiveClearances (v.rename n) = u.effectiveClearances n := by
  funext d
  have hmap := h.lineage_map (f := fun s => s.clearances.tokens d) ht hu
    (fun ha => by rw [ha.clearances]) hn
  show Scope.distinct ((t.lineage (v.rename n)).reverse.map _) =
    Scope.distinct ((u.lineage n).reverse.map _)
  rw [List.map_reverse, List.map_reverse, hmap]

theorem Alike.accessor (h : v.Alike t u) (ht : t.Tree) (hu : u.Tree) (hn : v.Sees n) :
    t.accessor (v.rename n) = u.accessor n := by
  have hmap := h.lineage_map (f := Scope.accessor) ht hu (fun ha => ha.accessor) hn
  have hfind : ∀ l : List Scope, Scope.effectiveAccessor l = (l.map Scope.accessor).findSome? id := by
    intro l
    rw [List.findSome?_map]
    rfl
  rw [ScopeStack.accessor, ScopeStack.accessor, hfind, hfind, hmap]

theorem Alike.isPermitted (h : v.Alike t u) (ht : t.Tree) (hu : u.Tree) (hn : v.Sees n)
    (name : String) : t.isPermitted (v.rename n) name = u.isPermitted n name := by
  have hgranted := h.lineage_map (f := Scope.granted) ht hu (fun ha => ha.granted) hn
  have hdenied := h.lineage_map (f := Scope.denied) ht hu (fun ha => ha.denied) hn
  unfold ScopeStack.isPermitted Scope.isPermitted Scope.effectiveGranted Scope.effectiveDenied
  rw [hgranted, hdenied, h.matcher]

/-! ### Places -/

/-- Places of the line in the two stacks. -/
inductive SamePlace (v : Sight) (t u : ScopeStack) : Place → Place → Prop
  | outside : SamePlace v t u none none
  | within {n : Nat} {s s' : Scope} (hroot : n ≠ Scope.rootSerial) (hn : v.Inside n)
      (hs : t.scope? (v.rename n) = some s) (hs' : u.scope? n = some s') :
      SamePlace v t u (some s.path) (some s'.path)

theorem Alike.nearest (h : v.Alike t u) (ht : t.Tree) (hu : u.Tree) {s s' : Scope}
    (hn : v.Inside n) (hs : t.scope? (v.rename n) = some s) (hs' : u.scope? n = some s') :
    t.nearest s.path = v.rename (u.nearest s'.path) ∧ v.Inside (u.nearest s'.path) := by
  induction n using Nat.strongRecOn generalizing s s' with
  | ind n ih =>
    by_cases hroot : n = Scope.rootSerial
    · subst hroot
      rw [hu.nearest_root hs', h.rename_root]
      rw [h.rename_root] at hs
      exact ⟨ht.nearest_root hs, hn⟩
    · have hsees := h.sees_of_inside hn
      have hentered := h.entered hn
      cases hin : u.isEntered n with
      | true =>
        rw [hu.nearest_entered hs' hin, ht.nearest_entered hs (hentered.trans hin)]
        exact ⟨rfl, hn⟩
      | false =>
        obtain ⟨p, q, hlt, hq, hparent, hpath⟩ := hu.child hs' hroot
        obtain ⟨p', q', -, hq', hparent', hpath'⟩ := ht.child hs (h.rename_ne_root hsees hroot)
        obtain rfl := h.parent_rename hsees hs hs' hparent hparent'
        rw [hu.nearest_left hs' hin hpath, ht.nearest_left hs (hentered.trans hin) hpath']
        exact ih p hlt ((h.parent hs' hparent).2 hn) hq' hq

/-- The line's current scopes correspond. -/
theorem Alike.current (h : v.Alike t u) (ht : t.Tree) (hu : u.Tree) {p q : Place}
    (hp : SamePlace v t u p q) :
    t.current p = v.rename (u.current q) ∧ v.Inside (u.current q) := by
  cases hp with
  | outside => exact ⟨h.rename_root.symm, h.inside_root⟩
  | within hroot hn hs hs' => exact h.nearest ht hu hn hs hs'

/-! ### What others do -/

/-- The shared stack may change in what the line does not see. -/
theorem Alike.frame (h : v.Alike t u) {t' : ScopeStack} (hlen : t.scopes.length ≤ t'.scopes.length)
    (hmatcher : t'.matcher = t.matcher) (hscope : ∀ n ∈ v.seen ++ v.own, t'.scope? n = t.scope? n)
    (hentered : ∀ n ∈ v.inside ++ v.own, t'.isEntered n = t.isEntered n) : v.Alike t' u where
  counts := h.counts.mono hlen
  inside := h.inside
  root := h.root
  matcher := hmatcher.trans h.matcher
  scope hn := by
    rw [hscope _ (h.counts.rename_mem hn)]
    exact h.scope hn
  parent := h.parent
  entered hn := by
    rw [hentered _ (h.rename_mem_inside hn)]
    exact h.entered hn

theorem SamePlace.frame (h : v.Alike t u) {t' : ScopeStack} {p q : Place} (hp : SamePlace v t u p q)
    (hscope : ∀ n ∈ v.seen ++ v.own, t'.scope? n = t.scope? n) : SamePlace v t' u p q := by
  cases hp with
  | outside => exact .outside
  | within hroot hn hs hs' =>
    refine .within hroot hn ?_ hs'
    rw [hscope _ (h.counts.rename_mem (h.sees_of_inside hn))]
    exact hs

end Sight

end RowAccess
