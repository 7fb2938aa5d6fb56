import Mathlib.Data.List.Basic
import Mathlib.Tactic.Common
import RowAccess.Proofs.Scope.Tree

/-!
# Current scopes

What entering a scope and using its guard do to the current scope of every place, stale places included.
The place of the line that uses a guard moves out to the parent, which may have been left already; all
other places stay and are looked up anew. Both ways come to the same scope.
-/

namespace RowAccess

namespace ScopeStack

variable {t : ScopeStack} {n serial : Nat} {s : Scope} {place q : Place}

/-! ### Entering -/

theorem scope?_enter (t : ScopeStack) (place : Place) (n : Nat) :
    (t.enter place).1.scope? n =
      if n = t.scopes.length then some (Scope.within (t.scope (t.current place)) t.scopes.length)
      else t.scope? n := by
  show (t.scopes ++ [_])[n]? = _
  by_cases hn : n = t.scopes.length
  · subst hn
    rw [if_pos rfl, List.getElem?_concat_length]
  · rw [if_neg hn]
    by_cases hlt : n < t.scopes.length
    · rw [List.getElem?_append_left hlt, scope?]
    · rw [scope?, List.getElem?_eq_none (by simp; omega), List.getElem?_eq_none (by omega)]

theorem scope?_enter_new (t : ScopeStack) (place : Place) :
    (t.enter place).1.scope? t.scopes.length =
      some (Scope.within (t.scope (t.current place)) t.scopes.length) := by
  rw [scope?_enter, if_pos rfl]

theorem scope?_enter_of_scope? (h : t.scope? n = some s) :
    (t.enter place).1.scope? n = some s := by
  rw [scope?_enter, if_neg (Nat.ne_of_lt (scope?_lt h)), h]

/-- What a new scope has in common with the root in its first state, no number has another way. -/
theorem scope_enter_map {β : Type} {f : Scope → β}
    (h : ∀ outer serial, f (Scope.within outer serial) = f .root) (t : ScopeStack) (place : Place) (n : Nat) :
    f ((t.enter place).1.scope n) = f (t.scope n) := by
  unfold scope
  rw [scope?_enter]
  by_cases hn : n = t.scopes.length
  · rw [if_pos hn, scope?, hn, List.getElem?_eq_none (Nat.le_refl _)]
    exact h _ _
  · rw [if_neg hn]

/-- Using a guard changes no scope. -/
theorem scopes_exit (t : ScopeStack) (place : Place) (serial : Nat) :
    (t.exit place serial).1.scopes = t.scopes := by
  unfold exit
  cases t.scope? serial with
  | none => rfl
  | some s =>
    dsimp only
    split <;> rfl

theorem matcher_exit (t : ScopeStack) (place : Place) (serial : Nat) :
    (t.exit place serial).1.matcher = t.matcher := by
  unfold exit
  cases t.scope? serial with
  | none => rfl
  | some s =>
    dsimp only
    split <;> rfl

theorem Tree.length_ne_root (h : t.Tree) : t.scopes.length ≠ Scope.rootSerial := by
  obtain ⟨r, hr, -⟩ := h.root
  exact Nat.ne_of_gt (Nat.zero_lt_of_lt (scope?_lt hr))

/-- The path of a new scope is no path of an earlier one. -/
theorem Tree.new_path (h : t.Tree) (hs : t.scope? n = some s) (outer : Scope) :
    s.path ≠ (Scope.within outer t.scopes.length).path := by
  intro heq
  have hhead := h.path_head hs
  rw [heq] at hhead
  exact Nat.ne_of_gt (scope?_lt hs) (Option.some.inj hhead)

theorem Tree.enter (h : t.Tree) (hp : t.Placed place) : (t.enter place).1.Tree := by
  obtain ⟨outer, houter⟩ := h.current_exists hp
  have hnew := scope_of_scope? houter
  obtain ⟨r, hr, hrparent, hrpath⟩ := h.root
  constructor
  · intro n s hs
    rw [scope?_enter] at hs
    split at hs
    next hn =>
      cases hs
      exact hn.symm
    next => exact h.serial hs
  · exact ⟨r, scope?_enter_of_scope? hr, hrparent, hrpath⟩
  · intro n s hs hn
    rw [scope?_enter] at hs
    split at hs
    next heq =>
      cases hs
      rw [hnew, heq]
      refine ⟨t.current place, outer, scope?_lt houter, scope?_enter_of_scope? houter, ?_, rfl⟩
      exact congrArg some (h.serial houter)
    next =>
      obtain ⟨p, q, hlt, hq, hparent, hpath⟩ := h.child hs hn
      exact ⟨p, q, hlt, scope?_enter_of_scope? hq, hparent, hpath⟩
  · intro n s hs
    show s.path ∈ t.entered ++ [_] ↔ t.isEntered n = true
    rw [List.mem_append, List.mem_singleton]
    rw [scope?_enter] at hs
    split at hs
    next heq =>
      cases hs
      have hfresh : n ∉ t.left := fun hmem => Nat.ne_of_lt (h.left n hmem) heq
      exact ⟨fun _ => isEntered_iff.mpr ⟨heq ▸ h.length_ne_root, hfresh⟩, fun _ => .inr rfl⟩
    next =>
      rw [← h.entered hs]
      exact ⟨fun hin => hin.resolve_right (h.new_path hs _), .inl⟩
  · intro n hn
    show n < (t.scopes ++ [_]).length
    rw [List.length_append]
    exact Nat.lt_add_right _ (h.left n hn)

theorem placed_enter_of_placed (hq : t.Placed q) : (t.enter place).1.Placed q := by
  intro path hpath
  obtain ⟨n, s, hn, hs, heq⟩ := hq path hpath
  exact ⟨n, s, hn, scope?_enter_of_scope? hs, heq⟩

theorem Tree.placed_enter (h : t.Tree) (place : Place) :
    (t.enter place).1.Placed (t.enter place).2.1 := by
  intro path hpath
  cases hpath
  exact ⟨t.scopes.length, _, h.length_ne_root, scope?_enter_new t place, rfl⟩

/-- A new scope is entered. -/
theorem Tree.isEntered_new (h : t.Tree) (place : Place) :
    (t.enter place).1.isEntered t.scopes.length = true :=
  isEntered_iff.mpr ⟨h.length_ne_root, fun hmem => Nat.lt_irrefl _ (h.left _ hmem)⟩

/-- Who enters a scope is in it. -/
theorem Tree.current_enter (h : t.Tree) (hp : t.Placed place) :
    (t.enter place).1.current (t.enter place).2.1 = t.scopes.length := by
  exact (h.enter hp).nearest_entered (scope?_enter_new t place) (h.isEntered_new place)

/-- Nobody else is. -/
theorem Tree.current_enter_of_placed (h : t.Tree) (hp : t.Placed place) (hq : t.Placed q) :
    (t.enter place).1.current q = t.current q := by
  cases q with
  | none => rfl
  | some path =>
    obtain ⟨n, s, -, hs, rfl⟩ := hq path rfl
    show (t.enter place).1.nearest s.path = t.nearest s.path
    rw [(h.enter hp).nearest_eq (scope?_enter_of_scope? hs), h.nearest_eq hs]
    rfl

/-! ### Using guards -/

/-- Whether using the guard of a scope leaves it: the scope is there and its guard was not used. -/
def IsGuarded (t : ScopeStack) (serial : Nat) : Prop :=
  serial < t.scopes.length ∧ t.isEntered serial = true

instance (t : ScopeStack) (serial : Nat) : Decidable (t.IsGuarded serial) :=
  inferInstanceAs (Decidable (_ ∧ _))

/-- A stack after a guard was used for the first time. -/
def leave (t : ScopeStack) (serial : Nat) (s : Scope) : ScopeStack :=
  { t with
    entered := t.entered.filter fun path => path != s.path
    left := t.left ++ [serial]
    epoch := t.epoch + 1 }

/-- A guard leaves its scope once; there is none for the root. -/
theorem Tree.exit_cases (h : t.Tree) (place : Place) (serial : Nat) :
    (¬ t.IsGuarded serial ∧ t.exit place serial = (t, place)) ∨
    (∃ s, t.IsGuarded serial ∧ t.scope? serial = some s ∧
      t.exit place serial = (t.leave serial s, placeAfter s place)) := by
  unfold exit
  cases hs : t.scope? serial with
  | none =>
    refine .inl ⟨fun hg => ?_, rfl⟩
    exact Nat.not_lt.mpr (List.getElem?_eq_none_iff.mp hs) hg.1
  | some s =>
    have hroot : s.isRoot = true ↔ serial = Scope.rootSerial := by
      rw [Scope.isRoot, beq_iff_eq, h.serial hs]
    dsimp only
    by_cases hg : t.isEntered serial = true
    · obtain ⟨hne, hleft⟩ := isEntered_iff.mp hg
      refine .inr ⟨s, ⟨scope?_lt hs, hg⟩, rfl, ?_⟩
      rw [if_neg]
      · rfl
      · simp [hroot, hne, hleft]
    · refine .inl ⟨fun hg' => hg hg'.2, ?_⟩
      rw [if_pos]
      rw [Bool.or_eq_true, hroot, List.contains_iff_mem]
      rw [isEntered_iff] at hg
      exact Decidable.not_and_iff_not_or_not.mp hg |>.imp Decidable.not_not.mp Decidable.not_not.mp

theorem isEntered_leave (t : ScopeStack) (serial : Nat) (s : Scope) (n : Nat) :
    (t.leave serial s).isEntered n = (t.isEntered n && n != serial) := by
  rw [Bool.eq_iff_iff, isEntered_iff, Bool.and_eq_true, isEntered_iff]
  simp [leave, and_assoc]

theorem Tree.leave (h : t.Tree) (hs : t.scope? serial = some s) : (t.leave serial s).Tree := by
  refine ⟨h.serial, h.root, h.child, ?_, ?_⟩
  · intro n s' hs'
    show s'.path ∈ t.entered.filter _ ↔ _
    rw [List.mem_filter, bne_iff_ne, isEntered_leave, Bool.and_eq_true, bne_iff_ne, h.entered hs']
    refine and_congr_right fun _ => not_congr ⟨fun heq => h.path_inj hs' hs heq, ?_⟩
    rintro rfl
    obtain rfl := Option.some.inj (hs'.symm.trans hs)
    rfl
  · intro n hn
    rcases List.mem_append.mp hn with hn | hn
    · exact h.left n hn
    · rw [List.mem_singleton.mp hn]
      exact scope?_lt hs

/-- The scope nearest on a path after a guard was used: another one only where it was the one left. -/
theorem Tree.nearest_leave (h : t.Tree) (hg : t.IsGuarded serial) (hs : t.scope? serial = some s)
    {s' : Scope} (hs' : t.scope? n = some s') :
    (t.leave serial s).nearest s'.path =
      if t.nearest s'.path = serial then t.fallback serial else t.nearest s'.path := by
  have ht := h.leave hs
  have hne : serial ≠ Scope.rootSerial := (isEntered_iff.mp hg.2).1
  -- Along the way out: the scope left is passed by, and all others are as they were.
  refine h.outward (P := fun _ s' => (t.leave serial s).nearest s'.path =
    if t.nearest s'.path = serial then t.fallback serial else t.nearest s'.path) ?_ ?_ hs'
  · intro r hr _ _
    rw [ht.nearest_root hr, h.nearest_root hr, if_neg (Ne.symm hne)]
  · intro n p s' q hlt hs' hq _ hpath ih
    by_cases heq : n = serial
    · subst heq
      have hout : (t.leave n s).isEntered n = false := by simp [isEntered_leave]
      have hother : t.nearest q.path ≠ n :=
        Nat.ne_of_lt (Nat.lt_of_le_of_lt (h.nearest_le hq) hlt)
      rw [ht.nearest_left hs' hout hpath, ih, if_neg hother,
        h.nearest_entered hs' hg.2, if_pos rfl, h.fallback_eq hs' hq hpath]
    · have hsame : (t.leave serial s).isEntered n = t.isEntered n := by
        rw [isEntered_leave, bne_iff_ne.mpr heq, Bool.and_true]
      cases hin : t.isEntered n with
      | true =>
        rw [ht.nearest_entered hs' (hsame.trans hin), h.nearest_entered hs' hin, if_neg heq]
      | false =>
        rw [ht.nearest_left hs' (hsame.trans hin) hpath, h.nearest_left hs' hin hpath, ih]

/-- Where the line that uses a guard goes, its current scope is the one that its old place comes to. -/
theorem Tree.current_placeAfter (h : t.Tree) (hg : t.IsGuarded serial)
    (hs : t.scope? serial = some s) (place : Place) :
    (t.leave serial s).current (placeAfter s place) = (t.leave serial s).current place := by
  unfold placeAfter
  split
  next hplace =>
    subst hplace
    have ht := h.leave hs
    have hout : (t.leave serial s).isEntered serial = false := by simp [isEntered_leave]
    obtain ⟨p, q, -, hq, hparent, hpath⟩ := h.child hs (isEntered_iff.mp hg.2).1
    show _ = (t.leave serial s).nearest s.path
    rw [ht.nearest_left hs hout hpath, hparent, hpath, List.tail_cons]
    split
    next hroot =>
      obtain rfl : p = Scope.rootSerial := by simpa using hroot
      exact (ht.nearest_root hq).symm
    next => rfl
  next => rfl

theorem Tree.current_leave (h : t.Tree) (hg : t.IsGuarded serial) (hs : t.scope? serial = some s)
    (hq : t.Placed q) :
    (t.leave serial s).current q =
      if t.current q = serial then t.fallback serial else t.current q := by
  cases q with
  | none =>
    show Scope.rootSerial = if Scope.rootSerial = serial then _ else _
    rw [if_neg (Ne.symm (isEntered_iff.mp hg.2).1)]
    rfl
  | some path =>
    obtain ⟨n, s', -, hs', rfl⟩ := hq path rfl
    exact h.nearest_leave hg hs hs'

/-- Who uses a guard stays in the tree. -/
theorem Tree.placed_placeAfter (h : t.Tree) (hs : t.scope? serial = some s) (hp : t.Placed place) :
    t.Placed (placeAfter s place) := by
  unfold placeAfter
  split
  next hplace =>
    subst hplace
    obtain ⟨n, s', hn, hs', hpath⟩ := hp s.path rfl
    obtain rfl := h.path_inj hs' hs hpath
    obtain ⟨p, q, -, hq, hparent, hpath⟩ := h.child hs hn
    rw [hparent, hpath, List.tail_cons]
    split
    next => exact placed_none t
    next hroot =>
      intro path heq
      cases heq
      exact ⟨p, q, by simpa using hroot, hq, rfl⟩
  next => exact hp

end ScopeStack

end RowAccess
