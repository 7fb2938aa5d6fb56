import Mathlib.Data.List.Basic
import Mathlib.Data.List.Nodup
import Mathlib.Tactic.Common
import RowAccess.Proofs.Scope.Current

/-!
# Clearances that scopes hold

An addition is one token that is given to one scope in a dimension. A scope holds the tokens that were given to it,
each of them once and in the order in which they came. What a scope is granted is what its parent is granted and,
behind that, the tokens of its own that are not among it; so the list of a scope begins with that of each scope
around it, and changes with the scopes of its lineage only.
-/

namespace RowAccess

/-! ### One lineage -/

namespace Scope

variable {s : Scope} {outer : List Scope} {dimension : String}

theorem clearances_addClearances (s : Scope) (dimension : String) (tokens : List String) :
    (s.addClearances dimension tokens).clearances = s.clearances.add dimension tokens := by
  unfold addClearances
  dsimp only
  split <;> rfl

theorem distinct_append (lists : List (List String)) (own : List String) :
    distinct (lists ++ [own]) = own.foldl TokenTable.withToken (distinct lists) := by
  unfold distinct
  rw [List.flatten_append, List.foldl_append, List.flatten_singleton]

theorem nodup_distinct (lists : List (List String)) : (distinct lists).Nodup :=
  TokenTable.nodup_foldl_withToken List.nodup_nil

/-- The own tokens of a scope come behind those of the scopes around it, as far as they are new. -/
theorem effectiveClearances_cons (h : (s.clearances.tokens dimension).Nodup) :
    effectiveClearances (s :: outer) dimension =
      effectiveClearances outer dimension ++
        (s.clearances.tokens dimension).removeAll (effectiveClearances outer dimension) := by
  have hnew : ((s.clearances.tokens dimension).removeAll (effectiveClearances outer dimension)).Nodup := h.filter _
  unfold effectiveClearances at hnew ⊢
  rw [List.reverse_cons, List.map_append, List.map_singleton, distinct_append, TokenTable.foldl_withToken,
    TokenTable.eraseDups_of_nodup hnew]

theorem effectiveClearances_singleton (h : (s.clearances.tokens dimension).Nodup) :
    effectiveClearances [s] dimension = s.clearances.tokens dimension := by
  rw [effectiveClearances_cons h]
  exact (List.nil_append _).trans List.removeAll_nil

end Scope

/-! ### Additions -/

/-- A token that is given to the scope with a number, in a dimension. -/
structure Addition where
  scope : Nat
  dimension : String
  token : String
deriving Repr, DecidableEq

/-- The tokens that are given to a scope in a dimension, in order. -/
def Addition.tokens (l : List Addition) (n : Nat) (dimension : String) : List String :=
  (l.filter fun i => i.scope = n ∧ i.dimension = dimension).map Addition.token

theorem Addition.tokens_append (l l' : List Addition) (n : Nat) (dimension : String) :
    tokens (l ++ l') n dimension = tokens l n dimension ++ tokens l' n dimension := by
  unfold tokens
  rw [List.filter_append, List.map_append]

/-- Tokens that are given together are all given to one scope in one dimension. -/
theorem Addition.tokens_map (n m : Nat) (d e : String) (given : List String) :
    tokens (given.map (⟨n, d, ·⟩)) m e = if n = m ∧ d = e then given else [] := by
  unfold tokens
  split
  next h =>
    rw [List.filter_eq_self.mpr (by simp [h]), List.map_map]
    exact List.map_id given
  next h =>
    rw [List.filter_eq_nil_iff.mpr (by simpa using fun _ _ => not_and.mp h), List.map_nil]

namespace ScopeStack

variable {t t' t'' : ScopeStack} {n : Nat} {l l' : List Addition}

/-- The tokens that a scope holds itself. -/
def ownTokens (t : ScopeStack) (n : Nat) (dimension : String) : List String :=
  (t.scope n).clearances.tokens dimension

/-- What comes of giving tokens to a number: nothing where there is no scope. -/
def offered (t : ScopeStack) (n : Nat) (dimension : String) (tokens : List String) : List Addition :=
  if n < t.scopes.length then tokens.map (⟨n, dimension, ·⟩) else []

/-- A stack whose scopes hold what those of another one hold, and the tokens given to them behind that. -/
def Adds (t t' : ScopeStack) (l : List Addition) : Prop :=
  ∀ n dimension, t'.ownTokens n dimension =
    (Addition.tokens l n dimension).foldl TokenTable.withToken (t.ownTokens n dimension)

theorem Adds.refl (t : ScopeStack) : Adds t t [] := fun _ _ => rfl

theorem Adds.trans (h : Adds t t' l) (h' : Adds t' t'' l') : Adds t t'' (l ++ l') := by
  intro n d
  rw [h', h, Addition.tokens_append, List.foldl_append]

/-- Scopes with the same tables hold the same. -/
theorem adds_nil (h : ∀ n, (t'.scope n).clearances = (t.scope n).clearances) : Adds t t' [] := by
  intro n d
  rw [ownTokens, h]
  rfl

theorem adds_setAccessor (t : ScopeStack) (n : Nat) (name : String) : Adds t (t.setAccessor n name) [] :=
  adds_nil (scope_update_map (f := Scope.clearances) rfl)

/-- Tokens are given to the scope with the number, if there is one, and to no other. -/
theorem adds_addClearances (t : ScopeStack) (n : Nat) (dimension : String) (tokens : List String) :
    Adds t (t.addClearances n dimension tokens) (t.offered n dimension tokens) := by
  unfold addClearances offered
  split
  next hlt =>
    intro m d
    unfold ownTokens
    rw [Addition.tokens_map]
    by_cases hm : m = n
    · subst hm
      rw [scope_update hlt, Scope.clearances_addClearances, TokenTable.tokens_add]
      by_cases hd : d = dimension
      · rw [if_pos hd, if_pos ⟨rfl, hd.symm⟩, hd]
      · rw [if_neg hd, if_neg fun h => hd h.2.symm]
        rfl
    · rw [scope_update_of_ne hm, if_neg fun h => hm h.1.symm]
      rfl
  next hlt =>
    rw [update_of_none (List.getElem?_eq_none (Nat.le_of_not_lt hlt))]
    exact .refl t

theorem adds_addClearanceLists (n : Nat) : ∀ (lists : List (String × String)) (t : ScopeStack),
    Adds t (t.addClearanceLists n lists) (lists.flatMap fun e => t.offered n e.1 (splitTokenList e.2))
  | [], t => .refl t
  | e :: rest, t => by
      have hrest := adds_addClearanceLists n rest (t.addClearances n e.1 (splitTokenList e.2))
      have hlength : (t.addClearances n e.1 (splitTokenList e.2)).scopes.length = t.scopes.length :=
        (changes_addClearances t n e.1 _).frame.1
      have hoffered : (t.addClearances n e.1 (splitTokenList e.2)).offered n = t.offered n := by
        unfold offered
        rw [hlength]
      rw [hoffered] at hrest
      rw [List.flatMap_cons]
      exact (adds_addClearances t n e.1 _).trans hrest

/-- A new scope holds no token of its own. -/
theorem adds_enter (t : ScopeStack) (place : Place) : Adds t (t.enter place).1 [] :=
  adds_nil (scope_enter_map (f := Scope.clearances) (fun _ _ => rfl) t place)

/-- A scope that is left keeps its tokens. -/
theorem adds_exit (t : ScopeStack) (place : Place) (n : Nat) : Adds t (t.exit place n).1 [] :=
  adds_nil fun k => by rw [scope, scope?, scopes_exit, scope, scope?]

/-- Permissions are no tokens. -/
theorem adds_insertPermissions (t : ScopeStack) (n : Nat) (granted denied : List String) :
    Adds t ((t.insertPermissions n granted denied).toOption.getD t) [] := by
  unfold insertPermissions
  cases hs : (t.scope n).addPermissions t.matcher granted denied with
  | error f => exact .refl t
  | ok s =>
    obtain ⟨-, revision, -, rfl⟩ := Scope.addPermissions_eq_ok hs
    exact adds_nil (scope_update_map (f := Scope.clearances) rfl)

/-! ### Clearances along a lineage -/

/-- Every scope holds each of its tokens once. -/
def Distinct (t : ScopeStack) : Prop := ∀ n dimension, (t.ownTokens n dimension).Nodup

theorem Distinct.own {s : Scope} (h : t.Distinct) (hs : t.scope? n = some s) (dimension : String) :
    (s.clearances.tokens dimension).Nodup := by
  rw [← scope_of_scope? hs]
  exact h n dimension

theorem Distinct.effective_root {s : Scope} (h : t.Distinct) (hs : t.scope? n = some s) (hparent : s.parent = none)
    (dimension : String) : t.effectiveClearances n dimension = s.clearances.tokens dimension := by
  rw [effectiveClearances, lineage_root hs hparent, Scope.effectiveClearances_singleton (h.own hs dimension)]

theorem Distinct.effective_child {s : Scope} {p : Nat} (h : t.Distinct) (hs : t.scope? n = some s)
    (hparent : s.parent = some p) (hlt : p < n) (dimension : String) :
    t.effectiveClearances n dimension = t.effectiveClearances p dimension ++
      (s.clearances.tokens dimension).removeAll (t.effectiveClearances p dimension) := by
  rw [effectiveClearances, lineage_child hs hparent hlt, Scope.effectiveClearances_cons (h.own hs dimension)]
  rfl

namespace Tree

variable {s : Scope}

theorem parent_lt (h : t.Tree) {p : Nat} (hs : t.scope? n = some s) (hparent : s.parent = some p) : p < n := by
  by_cases hn : n = Scope.rootSerial
  · obtain ⟨r, hr, hnone, -⟩ := h.root
    obtain rfl := Option.some.inj (hs.symm.trans (hn ▸ hr))
    rw [hnone] at hparent
    cases hparent
  · obtain ⟨p', q, hlt, -, hparent', -⟩ := h.child hs hn
    obtain rfl := Option.some.inj (hparent'.symm.trans hparent)
    exact hlt

/-- What a scope is granted begins with what each scope around it is granted. -/
theorem effective_prefix (h : t.Tree) (hown : t.Distinct) (dimension : String) (hs : t.scope? n = some s) :
    ∀ m ∈ (t.lineage n).map Scope.serial, t.effectiveClearances m dimension <+: t.effectiveClearances n dimension := by
  refine h.outward (P := fun n _ => ∀ m ∈ (t.lineage n).map Scope.serial,
    t.effectiveClearances m dimension <+: t.effectiveClearances n dimension) ?_ ?_ hs
  · intro r hr hparent _ m hm
    rw [lineage_root hr hparent, List.map_singleton, List.mem_singleton, h.serial hr] at hm
    exact hm ▸ List.prefix_rfl
  · intro n p s q hlt hs _ hparent _ ih m hm
    rw [lineage_child hs hparent hlt, List.map_cons, List.mem_cons, h.serial hs] at hm
    rcases hm with rfl | hm
    · exact List.prefix_rfl
    · rw [hown.effective_child hs hparent hlt]
      exact (ih m hm).trans (List.prefix_append _ _)

/-- A lineage depends on the scopes in it alone. -/
theorem lineage_congr (h : t.Tree) (hs : t.scope? n = some s) :
    (∀ m ∈ (t.lineage n).map Scope.serial, t'.scope? m = t.scope? m) → t'.lineage n = t.lineage n := by
  refine h.outward (P := fun n _ =>
    (∀ m ∈ (t.lineage n).map Scope.serial, t'.scope? m = t.scope? m) → t'.lineage n = t.lineage n) ?_ ?_ hs
  · intro r hr hparent _ hsame
    have hr' := (hsame _ (h.self_mem_lineage hr)).trans hr
    rw [lineage_root hr hparent, lineage_root hr' hparent]
  · intro n p s q hlt hs _ hparent _ ih hsame
    have hs' := (hsame n (h.self_mem_lineage hs)).trans hs
    rw [lineage_child hs hparent hlt] at hsame ⊢
    rw [lineage_child hs' hparent hlt, ih fun m hm => hsame m (List.mem_cons_of_mem _ hm)]

end Tree

end ScopeStack

end RowAccess
