import Mathlib.Data.List.Basic
import Mathlib.Tactic.Common
import RowAccess.Proofs.Scope.Sight

/-!
# What a line does itself

The line does the same thing in the stack that it shares and in the one that it has for itself. What it sees
of them stays alike, and its places correspond afterwards; a scope that it enters has the next number in
each of them.
-/

namespace RowAccess

namespace ScopeStack

variable {t : ScopeStack} {m serial : Nat} {place : Place}

/-- After the guard of a scope was used, the scope is not entered, and all others are as they were. -/
theorem Tree.isEntered_exit (h : t.Tree) (hm : m < t.scopes.length) :
    (t.exit place serial).1.isEntered m = (t.isEntered m && m != serial) := by
  rcases h.exit_cases place serial with ⟨hg, heq⟩ | ⟨s, hg, hs, heq⟩
  · rw [heq]
    by_cases hms : m = serial
    · subst hms
      cases hin : t.isEntered m with
      | false => rfl
      | true => exact absurd ⟨hm, hin⟩ hg
    · rw [bne_iff_ne.mpr hms, Bool.and_true]
  · rw [heq]
    exact isEntered_leave t serial s m

end ScopeStack

namespace Sight

variable {v : Sight} {t u : ScopeStack} {n m k : Nat} {p q : Place}

/-! ### Entering -/

theorem Scope.Alike.congr {f g : Nat → Nat} {s s' : Scope} (h : s.Alike f s')
    (hfg : ∀ m, s'.parent = some m → g m = f m) : s.Alike g s' where
  accessor := h.accessor
  clearances := h.clearances
  granted := h.granted
  denied := h.denied
  parent := by
    rw [h.parent]
    cases hp : s'.parent with
    | none => rfl
    | some m => rw [Option.map_some, Option.map_some, hfg m hp]

/-- The line enters a scope, in each stack the next one. -/
theorem Alike.enter (h : v.Alike t u) (ht : t.Tree) (hu : u.Tree) (hp : SamePlace v t u p q)
    (htp : t.Placed p) (huq : u.Placed q) :
    (v.make t.scopes.length).Alike (t.enter p).1 (u.enter q).1 := by
  obtain ⟨hcurrent, hinside⟩ := h.current ht hu hp
  have hsees := h.sees_of_inside hinside
  obtain ⟨o, ho⟩ := ht.current_exists htp
  obtain ⟨o', ho'⟩ := hu.current_exists huq
  constructor
  · show (v.make t.scopes.length).Counts (t.scopes ++ [_]).length (u.scopes ++ [_]).length
    rw [List.length_append, List.length_append]
    exact h.counts.make
  · exact h.inside
  · exact h.root
  · exact h.matcher
  · intro n hn
    rcases sees_make.mp hn with hn | rfl
    · obtain ⟨s, s', hs, hs', ha⟩ := h.scope hn
      rw [h.counts.rename_make hn]
      refine ⟨s, s', ScopeStack.scope?_enter_of_scope? hs, ScopeStack.scope?_enter_of_scope? hs', ?_⟩
      exact Scope.Alike.congr ha fun m hm => h.counts.rename_make ((h.parent hs' hm).1 hn)
    · rw [rename_make_new, ← h.counts.length]
      refine ⟨_, _, ScopeStack.scope?_enter_new t p, ScopeStack.scope?_enter_new u q,
        rfl, rfl, rfl, rfl, ?_⟩
      rw [ScopeStack.scope_of_scope? ho, ScopeStack.scope_of_scope? ho']
      show some o.serial = some ((v.make _).rename o'.serial)
      rw [ht.serial ho, hu.serial ho', h.counts.rename_make hsees, hcurrent]
  · intro n s' m hs' hparent
    rw [ScopeStack.scope?_enter] at hs'
    split at hs'
    next heq =>
      cases hs'
      rw [ScopeStack.scope_of_scope? ho'] at hparent
      have hm : u.current q = m := (hu.serial ho').symm.trans (Option.some.inj hparent)
      exact ⟨fun _ => sees_make.mpr (.inl (hm ▸ hsees)),
        fun _ => inside_make.mpr (.inl (hm ▸ hinside))⟩
    next hne =>
      have hold := h.parent hs' hparent
      rw [h.counts.length] at hne
      exact ⟨fun hn => sees_make.mpr (.inl (hold.1 ((sees_make.mp hn).resolve_right hne))),
        fun hn => inside_make.mpr (.inl (hold.2 ((inside_make.mp hn).resolve_right hne)))⟩
  · intro n hn
    rcases inside_make.mp hn with hn | rfl
    · rw [h.counts.rename_make (h.sees_of_inside hn)]
      exact h.entered hn
    · rw [rename_make_new, ← h.counts.length]
      rw [ht.isEntered_new, hu.isEntered_new]

theorem Alike.samePlace_enter (h : v.Alike t u) (hu : u.Tree) :
    SamePlace (v.make t.scopes.length) (t.enter p).1 (u.enter q).1 (t.enter p).2.1
      (u.enter q).2.1 := by
  have hnew : (v.make t.scopes.length).rename u.scopes.length = t.scopes.length := by
    rw [h.counts.length, rename_make_new]
  have hin : (v.make t.scopes.length).Inside u.scopes.length :=
    inside_make.mpr (.inr h.counts.length)
  refine .within hu.length_ne_root hin ?_ (ScopeStack.scope?_enter_new u q)
  rw [hnew]
  exact ScopeStack.scope?_enter_new t p

/-! ### Using guards -/

/-- The line uses the guard of a scope that it sees. -/
theorem Alike.exit (h : v.Alike t u) (ht : t.Tree) (hu : u.Tree) (hn : v.Sees n) (p q : Place) :
    v.Alike (t.exit p (v.rename n)).1 (u.exit q n).1 := by
  have hscopes := ScopeStack.scopes_exit t p (v.rename n)
  have hscopes' := ScopeStack.scopes_exit u q n
  constructor
  · rw [hscopes, hscopes']
    exact h.counts
  · exact h.inside
  · exact h.root
  · rw [ScopeStack.matcher_exit, ScopeStack.matcher_exit]
    exact h.matcher
  · intro m hm
    unfold ScopeStack.scope?
    rw [hscopes, hscopes']
    exact h.scope hm
  · intro m s' o hs' hparent
    unfold ScopeStack.scope? at hs'
    rw [hscopes'] at hs'
    exact h.parent hs' hparent
  · intro m hm
    have hsees := h.sees_of_inside hm
    obtain ⟨s, s', hs, hs', -⟩ := h.scope hsees
    have hsame : (v.rename m != v.rename n) = (m != n) := by
      by_cases hmn : m = n
      · rw [hmn, bne_self_eq_false, bne_self_eq_false]
      · rw [bne_iff_ne.mpr hmn, bne_iff_ne.mpr fun heq => hmn (h.counts.rename_inj hsees hn heq)]
    rw [ht.isEntered_exit (ScopeStack.scope?_lt hs), hu.isEntered_exit (ScopeStack.scope?_lt hs'),
      h.entered hm, hsame]

/-- Only its own scope's guard moves a place. -/
theorem placeAfter_of_ne {s s₀ : Scope} (hs : t.scope? n = some s) (ht : t.Tree)
    (hs₀ : t.scope? m = some s₀) (hne : m ≠ n) : ScopeStack.placeAfter s (some s₀.path) = some s₀.path := by
  unfold ScopeStack.placeAfter
  rw [if_neg]
  intro heq
  exact hne (ht.path_inj hs₀ hs (Option.some.inj heq))

theorem exit_place_of_ne (ht : t.Tree) {s₀ : Scope} (hs₀ : t.scope? m = some s₀) (hne : m ≠ n) :
    (t.exit (some s₀.path) n).2 = some s₀.path := by
  rcases ht.exit_cases (some s₀.path) n with ⟨-, heq⟩ | ⟨s, -, hs, heq⟩
  · rw [heq]
  · rw [heq]
    exact placeAfter_of_ne hs ht hs₀ hne

theorem exit_place_self (ht : t.Tree) {s₀ : Scope} (hs₀ : t.scope? n = some s₀) :
    (t.exit (some s₀.path) n).2 =
      if t.isEntered n then
        if s₀.parent.all (· == Scope.rootSerial) then none else some s₀.path.tail
      else some s₀.path := by
  rcases ht.exit_cases (some s₀.path) n with ⟨hg, heq⟩ | ⟨s, hg, hs, heq⟩
  · rw [heq, if_neg fun hin => hg ⟨ScopeStack.scope?_lt hs₀, hin⟩]
  · obtain rfl := Option.some.inj (hs.symm.trans hs₀)
    rw [heq, if_pos hg.2]
    exact if_pos rfl

theorem exit_place_none (ht : t.Tree) (n : Nat) : (t.exit none n).2 = none := by
  rcases ht.exit_cases none n with ⟨-, heq⟩ | ⟨s, -, -, heq⟩
  · rw [heq]
  · rw [heq]
    rfl

theorem Alike.samePlace_exit (h : v.Alike t u) (ht : t.Tree) (hu : u.Tree) (hn : v.Sees n)
    (hp : SamePlace v t u p q) :
    SamePlace v (t.exit p (v.rename n)).1 (u.exit q n).1 (t.exit p (v.rename n)).2 (u.exit q n).2 := by
  -- Both places are about scopes, and the scopes stay.
  suffices hsame : SamePlace v t u (t.exit p (v.rename n)).2 (u.exit q n).2 by
    generalize (t.exit p (v.rename n)).2 = p' at hsame ⊢
    generalize (u.exit q n).2 = q' at hsame ⊢
    cases hsame with
    | outside => exact .outside
    | within hroot hm hs hs' =>
      refine .within hroot hm ?_ ?_
      · unfold ScopeStack.scope?
        rw [ScopeStack.scopes_exit]
        exact hs
      · unfold ScopeStack.scope?
        rw [ScopeStack.scopes_exit]
        exact hs'
  cases hp with
  | outside =>
    rw [exit_place_none ht, exit_place_none hu]
    exact .outside
  | @within m s₀ s₀' hroot hm hs₀ hs₀' =>
    have hsees := h.sees_of_inside hm
    by_cases hmn : m = n
    · subst hmn
      rw [exit_place_self ht hs₀, exit_place_self hu hs₀', h.entered hm]
      split
      next =>
        obtain ⟨o', w', -, hw', hparent', hpath'⟩ := hu.child hs₀' hroot
        obtain ⟨o, w, -, hw, hparent, hpath⟩ := ht.child hs₀ (h.rename_ne_root hsees hroot)
        obtain rfl := h.parent_rename hsees hs₀ hs₀' hparent' hparent
        have ho := (h.parent hs₀' hparent').2 hm
        rw [hparent, hparent', hpath, hpath', List.tail_cons, List.tail_cons]
        by_cases hout : o' = Scope.rootSerial
        · rw [hout, h.rename_root]
          exact .outside
        · have hne := h.rename_ne_root (h.sees_of_inside ho) hout
          rw [if_neg (by simpa using hne), if_neg (by simpa using hout)]
          exact .within hout ho hw hw'
      next => exact .within hroot hm hs₀ hs₀'
    · have hne : v.rename m ≠ v.rename n := fun heq => hmn (h.counts.rename_inj hsees hn heq)
      rw [exit_place_of_ne ht hs₀ hne, exit_place_of_ne hu hs₀' hmn]
      exact .within hroot hm hs₀ hs₀'

/-! ### Changes of scopes -/

/-- The line changes a scope that it sees. -/
theorem Alike.update (h : v.Alike t u) (hn : v.Sees n) {s s' : Scope}
    (hs : (t.scope (v.rename n)).Changed s) (hs' : (u.scope n).Changed s')
    (ha : s.Alike v.rename s') : v.Alike (t.update (v.rename n) s) (u.update n s') where
  counts := by
    show v.Counts (t.scopes.set _ _).length (u.scopes.set _ _).length
    rw [List.length_set, List.length_set]
    exact h.counts
  inside := h.inside
  root := h.root
  matcher := h.matcher
  scope {m} hm := by
    obtain ⟨s₀, s₀', hs₀, hs₀', ha₀⟩ := h.scope hm
    rw [ScopeStack.scope?_update, ScopeStack.scope?_update, hs₀, hs₀']
    by_cases hmn : m = n
    · subst hmn
      rw [if_pos rfl, if_pos rfl]
      exact ⟨s, s', rfl, rfl, ha⟩
    · rw [if_neg hmn, if_neg fun heq => hmn (h.counts.rename_inj hm hn heq)]
      exact ⟨s₀, s₀', rfl, rfl, ha₀⟩
  parent {m s₁ o} hs₁ hparent := by
    have hmap := ScopeStack.scope?_update_map hs'.parent m
    rw [hs₁, Option.map_some] at hmap
    obtain ⟨s₀, hs₀, heq⟩ := Option.map_eq_some_iff.mp hmap.symm
    exact h.parent hs₀ (heq.trans hparent)
  entered := h.entered

/-- What corresponds before the scopes are changed where they stand corresponds afterwards. -/
theorem SamePlace.changes {t' u' : ScopeStack} (hp : SamePlace v t u p q) (ht : t.Changes k t')
    (hu : u.Changes m u') : SamePlace v t' u' p q := by
  cases hp with
  | outside => exact .outside
  | @within n s s' hroot hn hs hs' =>
    obtain ⟨s₁, hs₁, heq⟩ := ht.path hs
    obtain ⟨s₁', hs₁', heq'⟩ := hu.path hs'
    rw [← heq, ← heq']
    exact .within hroot hn hs₁ hs₁'

/-- The scopes that are changed are alike. -/
theorem Alike.scope_alike (h : v.Alike t u) (hn : v.Sees n) :
    (t.scope (v.rename n)).Alike v.rename (u.scope n) := by
  obtain ⟨s, s', hs, hs', ha⟩ := h.scope hn
  rw [ScopeStack.scope_of_scope? hs, ScopeStack.scope_of_scope? hs']
  exact ha

theorem Alike.setAccessor (h : v.Alike t u) (hn : v.Sees n) (name : String) :
    v.Alike (t.setAccessor (v.rename n) name) (u.setAccessor n name) := by
  have ha := h.scope_alike hn
  exact h.update hn (Scope.changed_accessor _ name) (Scope.changed_accessor _ name)
    ⟨rfl, ha.clearances, ha.granted, ha.denied, ha.parent⟩

theorem scope_addClearances {s : Scope} (dimension : String) (tokens : List String) :
    (s.addClearances dimension tokens).accessor = s.accessor ∧
      (s.addClearances dimension tokens).clearances = s.clearances.add dimension tokens ∧
      (s.addClearances dimension tokens).granted = s.granted ∧
      (s.addClearances dimension tokens).denied = s.denied := by
  unfold Scope.addClearances
  dsimp only
  split <;> exact ⟨rfl, rfl, rfl, rfl⟩

theorem Alike.addClearances (h : v.Alike t u) (hn : v.Sees n) (dimension : String)
    (tokens : List String) :
    v.Alike (t.addClearances (v.rename n) dimension tokens) (u.addClearances n dimension tokens) := by
  have ha := h.scope_alike hn
  have hc := Scope.changed_addClearances (t.scope (v.rename n)) dimension tokens
  have hc' := Scope.changed_addClearances (u.scope n) dimension tokens
  obtain ⟨h₁, h₂, h₃, h₄⟩ := scope_addClearances (s := t.scope (v.rename n)) dimension tokens
  obtain ⟨h₁', h₂', h₃', h₄'⟩ := scope_addClearances (s := u.scope n) dimension tokens
  refine h.update hn hc hc' ⟨?_, ?_, ?_, ?_, ?_⟩
  · rw [h₁, h₁', ha.accessor]
  · rw [h₂, h₂', ha.clearances]
  · rw [h₃, h₃', ha.granted]
  · rw [h₄, h₄', ha.denied]
  · rw [hc.parent, hc'.parent, ha.parent]

theorem Alike.addClearanceLists (hn : v.Sees n) :
    ∀ (lists : List (String × String)) {t u : ScopeStack}, v.Alike t u →
      v.Alike (t.addClearanceLists (v.rename n) lists) (u.addClearanceLists n lists)
  | [], _, _, h => h
  | e :: rest, _, _, h =>
      Alike.addClearanceLists hn rest (h.addClearances hn e.1 (splitTokenList e.2))

/-- Permissions are added to scopes that are alike, or to neither of them. -/
theorem addPermissions_alike {f : Nat → Nat} {s s' : Scope} (ha : s.Alike f s') (m : Matcher)
    (granted denied : List String) :
    (∃ e, s.addPermissions m granted denied = .error e ∧
      s'.addPermissions m granted denied = .error e) ∨
    ∃ s₁ s₁', s.addPermissions m granted denied = .ok s₁ ∧
      s'.addPermissions m granted denied = .ok s₁' ∧ s₁.Alike f s₁' := by
  unfold Scope.addPermissions
  cases (granted ++ denied).findSome? m.fault? with
  | some e => exact .inl ⟨e, rfl, rfl⟩
  | none =>
    refine .inr ?_
    dsimp only
    by_cases hempty : (granted.isEmpty && denied.isEmpty) = true
    · rw [if_pos hempty, if_pos hempty]
      exact ⟨s, s', rfl, rfl, ha⟩
    · rw [if_neg hempty, if_neg hempty]
      refine ⟨_, _, rfl, rfl, ha.accessor, ha.clearances, ?_, ?_, ha.parent⟩
      · show List.foldl _ s.granted _ = List.foldl _ s'.granted _
        rw [ha.granted]
      · show List.foldl _ s.denied _ = List.foldl _ s'.denied _
        rw [ha.denied]

/-- Changes of two scopes that may fail: both fail alike, or both succeed with stacks that are alike. -/
inductive Together (v : Sight) (t u : ScopeStack) (n : Nat) :
    Except Fault ScopeStack → Except Fault ScopeStack → Prop
  | failed (f : Fault) : Together v t u n (.error f) (.error f)
  | changed {t' u' : ScopeStack} (ht : t.Changes (v.rename n) t') (hu : u.Changes n u')
      (h : v.Alike t' u') : Together v t u n (.ok t') (.ok u')

theorem Alike.insertPermissions (h : v.Alike t u) (hn : v.Sees n) (granted denied : List String) :
    Together v t u n (t.insertPermissions (v.rename n) granted denied)
      (u.insertPermissions n granted denied) := by
  unfold ScopeStack.insertPermissions
  rw [h.matcher]
  rcases addPermissions_alike (h.scope_alike hn) u.matcher granted denied with
    ⟨e, he, he'⟩ | ⟨s, s', hs, hs', ha⟩
  · rw [he, he']
    exact .failed e
  · rw [hs, hs']
    have hc := Scope.changed_addPermissions hs
    have hc' := Scope.changed_addPermissions hs'
    exact .changed (.update .refl hc) (.update .refl hc') (h.update hn hc hc' ha)

end Sight

end RowAccess
