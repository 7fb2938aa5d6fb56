import Mathlib.Data.List.Basic
import Mathlib.Tactic.Common
import RowAccess.Proofs.Source.TokenTable
import RowAccess.Scope.Stack

/-!
# Changes of scopes

Names, clearances and permissions are given to a scope where it stands: a changed scope has the number,
the parent and the path that it had, and its revision tells whether its tokens may have changed.
`ScopeStack.Changes` closes this under several changes of one scope, one after another.
-/

namespace RowAccess

/-! ### One scope -/

/-- What any change keeps of a scope. -/
structure Scope.Changed (s s' : Scope) : Prop where
  serial : s'.serial = s.serial
  parent : s'.parent = s.parent
  path : s'.path = s.path
  revision : s.revision ≤ s'.revision
  tokens : s'.revision = s.revision → s'.clearances.tokens = s.clearances.tokens

namespace Scope

theorem changed_accessor (s : Scope) (name : String) : s.Changed { s with accessor := some name } :=
  ⟨rfl, rfl, rfl, Nat.le_refl _, fun _ => rfl⟩

theorem changed_addClearances (s : Scope) (dimension : String) (tokens : List String) :
    s.Changed (s.addClearances dimension tokens) := by
  unfold addClearances
  dsimp only
  split
  next hall =>
    refine ⟨rfl, rfl, rfl, Nat.le_refl _, fun _ => ?_⟩
    apply TokenTable.tokens_add_of_held
    intro token ht
    exact List.contains_iff_mem.mp (List.all_eq_true.mp hall token ht)
  next =>
    refine ⟨rfl, rfl, rfl, Nat.le_succ _, fun h => ?_⟩
    exact absurd h (Nat.succ_ne_self _)

/-- A scope with patterns behind those that it has, which counts as one change if there are any. -/
def inserted (s : Scope) (granted denied : List String) : Scope :=
  { s with
    granted := granted.foldl TokenTable.withToken s.granted
    denied := denied.foldl TokenTable.withToken s.denied
    revision := if granted.isEmpty && denied.isEmpty then s.revision else s.revision + 1 }

/-- Patterns are refused for the first fault among them, or they are inserted. -/
theorem addPermissions_eq_inserted (s : Scope) (m : Matcher) (granted denied : List String) :
    s.addPermissions m granted denied =
      ((granted ++ denied).findSome? m.fault?).elim (.ok (s.inserted granted denied)) .error := by
  unfold addPermissions inserted
  cases (granted ++ denied).findSome? m.fault? with
  | some f => rfl
  | none =>
    dsimp only [Option.elim]
    split
    next hempty =>
      obtain ⟨hgranted, hdenied⟩ := (Bool.and_eq_true _ _).mp hempty
      rw [List.isEmpty_iff.mp hgranted, List.isEmpty_iff.mp hdenied]
      rfl
    next => rfl

/-- Patterns that are added can all be read; they come behind those that the scope has. -/
theorem addPermissions_eq_ok {s s' : Scope} {m : Matcher} {granted denied : List String}
    (h : s.addPermissions m granted denied = .ok s') :
    (granted ++ denied).findSome? m.fault? = none ∧ ∃ revision, s.revision ≤ revision ∧
      s' = { s with
        granted := granted.foldl TokenTable.withToken s.granted
        denied := denied.foldl TokenTable.withToken s.denied
        revision } := by
  rw [addPermissions_eq_inserted] at h
  cases hread : (granted ++ denied).findSome? m.fault? with
  | some f =>
    rw [hread] at h
    cases h
  | none =>
    rw [hread] at h
    obtain rfl := Except.ok.inj h
    have hle : s.revision ≤ (s.inserted granted denied).revision := by
      unfold inserted
      dsimp only
      split <;> omega
    exact ⟨rfl, _, hle, rfl⟩

/-- Patterns are refused for the first fault among them. -/
theorem addPermissions_eq_error {s : Scope} {m : Matcher} {granted denied : List String} {f : Fault}
    (h : s.addPermissions m granted denied = .error f) : (granted ++ denied).findSome? m.fault? = some f := by
  rw [addPermissions_eq_inserted] at h
  cases hread : (granted ++ denied).findSome? m.fault? with
  | some g =>
    rw [hread] at h
    exact congrArg some (Except.error.inj h)
  | none =>
    rw [hread] at h
    cases h

theorem changed_addPermissions {s s' : Scope} {m : Matcher} {granted denied : List String}
    (h : s.addPermissions m granted denied = .ok s') : s.Changed s' := by
  obtain ⟨-, revision, hle, rfl⟩ := addPermissions_eq_ok h
  exact ⟨rfl, rfl, rfl, hle, fun _ => rfl⟩

end Scope

namespace ScopeStack

/-! ### Scopes of a changed stack -/

variable {t t' t'' : ScopeStack}

theorem scope_of_scope? {n : Nat} {s : Scope} (h : t.scope? n = some s) : t.scope n = s := by
  rw [scope, h, Option.getD_some]

theorem scope?_update (t : ScopeStack) (serial : Nat) (s : Scope) (n : Nat) :
    (t.update serial s).scope? n =
      if n = serial then (t.scope? n).map fun _ => s else t.scope? n := by
  show (t.scopes.set serial s)[n]? = _
  rw [List.getElem?_set]
  by_cases h : n = serial
  · subst h
    rw [if_pos rfl, if_pos rfl, scope?]
    by_cases hn : n < t.scopes.length
    · rw [if_pos hn, List.getElem?_eq_getElem hn, Option.map_some]
    · rw [if_neg hn, List.getElem?_eq_none (Nat.le_of_not_lt hn), Option.map_none]
  · rw [if_neg h, if_neg (Ne.symm h), scope?]

/-- The epoch moves as far as the revision of the scope. -/
theorem epoch_update (t : ScopeStack) (serial : Nat) (s : Scope) :
    (t.update serial s).epoch =
      t.epoch + (((t.update serial s).scope serial).revision - (t.scope serial).revision) := rfl

/-- A number without a scope changes nothing. -/
theorem update_of_none {serial : Nat} (h : t.scope? serial = none) (s : Scope) : t.update serial s = t := by
  have hset : t.scopes.set serial s = t.scopes :=
    List.set_eq_of_length_le (List.getElem?_eq_none_iff.mp h)
  unfold update setScope
  simp only [hset, Nat.sub_self, Nat.add_zero]

theorem scope_update {serial : Nat} (h : serial < t.scopes.length) (s : Scope) :
    (t.update serial s).scope serial = s := by
  apply scope_of_scope?
  rw [scope?_update, if_pos rfl, scope?, List.getElem?_eq_getElem h, Option.map_some]

theorem scope_update_of_ne {serial n : Nat} {s : Scope} (h : n ≠ serial) :
    (t.update serial s).scope n = t.scope n := by
  unfold scope
  rw [scope?_update, if_neg h]

/-- What a changed scope keeps, all scopes of the stack keep. -/
theorem scope?_update_map {β : Type} {f : Scope → β} {serial : Nat} {s : Scope}
    (h : f s = f (t.scope serial)) (n : Nat) :
    ((t.update serial s).scope? n).map f = (t.scope? n).map f := by
  rw [scope?_update]
  by_cases hn : n = serial
  · subst hn
    rw [if_pos rfl]
    cases hs : t.scope? n with
    | none => rfl
    | some s' =>
      rw [scope_of_scope? hs] at h
      exact congrArg some h
  · rw [if_neg hn]

theorem scope_update_map {β : Type} {f : Scope → β} {serial : Nat} {s : Scope}
    (h : f s = f (t.scope serial)) (n : Nat) : f ((t.update serial s).scope n) = f (t.scope n) := by
  have hmap := scope?_update_map h n
  rw [scope, scope, ← Option.getD_map f, ← Option.getD_map f, hmap]

/-- Stacks whose scopes have the same parents have the same lineages, as far as the scopes agree. -/
theorem lineage_map_congr {β : Type} {f : Scope → β} {n : Nat}
    (hparent : ∀ m ≤ n, (t'.scope? m).map Scope.parent = (t.scope? m).map Scope.parent)
    (hf : ∀ m ≤ n, (t'.scope? m).map f = (t.scope? m).map f) :
    (t'.lineage n).map f = (t.lineage n).map f := by
  induction n using Nat.strongRecOn with
  | ind n ih =>
    have hp := hparent n (Nat.le_refl n)
    have hn := hf n (Nat.le_refl n)
    rw [lineage, lineage]
    cases hs : t.scope? n with
    | none =>
      rw [hs, Option.map_none, Option.map_eq_none_iff] at hp
      rw [hp]
    | some s =>
      rw [hs] at hp hn
      obtain ⟨s', hs', hparents⟩ := Option.map_eq_some_iff.mp hp
      rw [hs'] at hn
      have hfs : f s' = f s := Option.some.inj hn
      simp only [hs', hparents]
      cases s.parent with
      | none => simp only [List.map_cons, List.map_nil, hfs]
      | some p =>
        dsimp only
        split
        next hlt =>
          have hle : ∀ m ≤ p, m ≤ n := fun m hm => Nat.le_trans hm (Nat.le_of_lt hlt)
          rw [List.map_cons, List.map_cons, hfs,
            ih p hlt (fun m hm => hparent m (hle m hm)) (fun m hm => hf m (hle m hm))]
        next => simp only [List.map_cons, List.map_nil, hfs]

/-! ### Changes one after another -/

/-- A stack of which one scope was changed where it stands, any number of times. -/
inductive Changes (t : ScopeStack) (serial : Nat) : ScopeStack → Prop
  | refl : Changes t serial t
  | update {t' : ScopeStack} (h : Changes t serial t') {s : Scope} (hs : (t'.scope serial).Changed s) :
      Changes t serial (t'.update serial s)

variable {serial : Nat}

theorem Changes.trans (h : Changes t serial t') (h' : Changes t' serial t'') :
    Changes t serial t'' := by
  induction h' with
  | refl => exact h
  | update _ hs ih => exact ih.update hs

/-- All other scopes stay as they are. -/
theorem Changes.scope?_of_ne (h : Changes t serial t') {n : Nat} (hn : n ≠ serial) :
    t'.scope? n = t.scope? n := by
  induction h with
  | refl => rfl
  | update _ _ ih => rw [scope?_update, if_neg hn, ih]

/-- What no change touches of a stack. -/
theorem Changes.frame (h : Changes t serial t') :
    t'.scopes.length = t.scopes.length ∧ t'.matcher = t.matcher ∧ t'.entered = t.entered ∧
      t'.left = t.left := by
  induction h with
  | refl => exact ⟨rfl, rfl, rfl, rfl⟩
  | update _ _ ih =>
    refine ⟨?_, ih.2⟩
    rw [← ih.1]
    exact List.length_set

/-- The path of a scope is for good. -/
theorem Changes.path (h : Changes t serial t') {n : Nat} {s : Scope} (hs : t.scope? n = some s) :
    ∃ s', t'.scope? n = some s' ∧ s'.path = s.path := by
  induction h with
  | refl => exact ⟨s, hs, rfl⟩
  | update _ hc ih =>
    obtain ⟨s', hs', heq⟩ := ih
    have hmap := scope?_update_map hc.path n
    rw [hs', Option.map_some] at hmap
    obtain ⟨s'', hs'', heq'⟩ := Option.map_eq_some_iff.mp hmap
    exact ⟨s'', hs'', heq'.trans heq⟩

theorem changes_setAccessor (t : ScopeStack) (serial : Nat) (name : String) :
    Changes t serial (t.setAccessor serial name) :=
  Changes.refl.update (Scope.changed_accessor _ name)

theorem changes_addClearances (t : ScopeStack) (serial : Nat) (dimension : String)
    (tokens : List String) : Changes t serial (t.addClearances serial dimension tokens) :=
  Changes.refl.update (Scope.changed_addClearances _ dimension tokens)

theorem changes_addClearanceLists (serial : Nat) :
    ∀ (lists : List (String × String)) (t : ScopeStack),
      Changes t serial (t.addClearanceLists serial lists)
  | [], _ => .refl
  | e :: rest, t =>
      (changes_addClearances t serial e.1 (splitTokenList e.2)).trans
        (changes_addClearanceLists serial rest _)

theorem changes_insertPermissions {granted denied : List String}
    (h : t.insertPermissions serial granted denied = .ok t') : Changes t serial t' := by
  unfold insertPermissions at h
  cases hs : (t.scope serial).addPermissions t.matcher granted denied with
  | error f => rw [hs] at h; cases h
  | ok s =>
    rw [hs] at h
    cases h
    exact Changes.refl.update (Scope.changed_addPermissions hs)

theorem changes_addPermissions {tokens : List String}
    (h : t.addPermissions serial tokens = .ok t') : Changes t serial t' :=
  changes_insertPermissions h

end ScopeStack

end RowAccess
