import Mathlib.Data.List.Basic
import Mathlib.Tactic.Common
import RowAccess.Proofs.Config
import RowAccess.Proofs.Scope.Clearance
import RowAccess.Proofs.Scope.Insertion

/-!
# A configuration on a scope

What a configuration gives to a scope, as a function of the scope: a name, tokens and patterns, each of which the scope
then has once. Two scopes have the same contents where they have the same name, tokens and patterns, though their
changes may have been counted otherwise and their dimensions recorded in another order. What a configuration that is
laid over another one gives is what both give one after the other, and what a configuration gives twice it gives once.
-/

namespace RowAccess

/-! ### Tables of tokens -/

namespace TokenTable

variable {t : TokenTable} {d : String}

/-- Adds lists of tokens, dimension by dimension. -/
def addLists (t : TokenTable) (lists : List (String × String)) : TokenTable :=
  lists.foldl (fun t e => t.add e.1 (splitTokenList e.2)) t

theorem mem_dimensions_addLists : ∀ {lists : List (String × String)} {t : TokenTable},
    d ∈ (t.addLists lists).dimensions ↔ d ∈ t.dimensions ∨ d ∈ lists.map Prod.fst
  | [], t => (or_iff_left List.not_mem_nil).symm
  | e :: rest, t => by
      show d ∈ ((t.add e.1 (splitTokenList e.2)).addLists rest).dimensions ↔ _
      rw [mem_dimensions_addLists, mem_dimensions_add, List.map_cons, List.mem_cons, or_assoc]
      exact or_left_comm

/-- Each dimension has its tokens and behind them those of its list. -/
theorem tokens_addLists : ∀ {lists : List (String × String)}, Ascending lists → ∀ (t : TokenTable) (d : String),
    (t.addLists lists).tokens d = (tokensOf (lists.lookup d)).foldl withToken (t.tokens d)
  | [], _, _, _ => rfl
  | e :: rest, h, t, d => by
      show ((t.add e.1 (splitTokenList e.2)).addLists rest).tokens d = _
      rw [tokens_addLists (List.pairwise_cons.mp h).2, tokens_add, lookup_cons_ite]
      split
      next hd =>
        subst hd
        rw [h.lookup_rest]
        rfl
      next => rfl

/-- Lists of tokens as their tokens, dimension by dimension. -/
def listed (lists : List (String × String)) : List (String × List String) :=
  lists.map fun e => (e.1, splitTokenList e.2)

theorem addLists_eq_addAll (t : TokenTable) (lists : List (String × String)) :
    t.addLists lists = t.addAll (listed lists) := by
  unfold addLists addAll listed
  rw [List.foldl_map]

/-- Lists that were added change nothing when they are added again. -/
theorem addLists_addLists (t : TokenTable) (lists : List (String × String)) :
    (t.addLists lists).addLists lists = t.addLists lists := by
  rw [addLists_eq_addAll, addLists_eq_addAll]
  exact addAll_of_has fun e he => has_addAll he

end TokenTable

/-! ### One scope -/

namespace Scope

/-- The patterns of permission tokens in the order in which they are read, the granted ones first. -/
def patternsOf (tokens : List String) : List String := (splitPermissions tokens).1 ++ (splitPermissions tokens).2

theorem mem_patternsOf {tokens : List String} {p : String} :
    p ∈ patternsOf tokens ↔
      p ∈ tokens.filter (fun token => (deniedPattern? token).isNone) ∨ p ∈ tokens.filterMap deniedPattern? := by
  unfold patternsOf
  rw [splitPermissions_eq, List.mem_append]

theorem mem_patternsOf_append {l l' : List String} {p : String} :
    p ∈ patternsOf (l ++ l') ↔ p ∈ patternsOf l ∨ p ∈ patternsOf l' := by
  simp only [mem_patternsOf, List.filter_append, List.filterMap_append, List.mem_append]
  exact or_or_or_comm

/-- A scope with a name, where one is given. -/
def named (s : Scope) (name : Option String) : Scope := { s with accessor := name.or s.accessor }

/-- A scope with lists of tokens. -/
def cleared (s : Scope) (lists : List (String × String)) : Scope :=
  lists.foldl (fun s e => s.addClearances e.1 (splitTokenList e.2)) s

/-- A scope with the patterns of permission tokens. -/
def permitted (s : Scope) (tokens : List String) : Scope :=
  { s with
    granted := (splitPermissions tokens).1.foldl TokenTable.withToken s.granted
    denied := (splitPermissions tokens).2.foldl TokenTable.withToken s.denied
    revision :=
      if (splitPermissions tokens).1.isEmpty && (splitPermissions tokens).2.isEmpty then s.revision
      else s.revision + 1 }

theorem addPermissions_eq (s : Scope) (m : Matcher) (tokens : List String) :
    s.addPermissions m (splitPermissions tokens).1 (splitPermissions tokens).2 =
      ((patternsOf tokens).findSome? m.fault?).elim (.ok (s.permitted tokens)) .error :=
  s.addPermissions_eq_inserted m _ _

/-- A scope with tokens that are given dimension by dimension. -/
def given (s : Scope) (entries : List (String × List String)) : Scope :=
  entries.foldl (fun s e => s.addClearances e.1 e.2) s

theorem cleared_eq_given (s : Scope) (lists : List (String × String)) :
    s.cleared lists = s.given (TokenTable.listed lists) := by
  unfold cleared given TokenTable.listed
  rw [List.foldl_map]

/-- What is given is added to the table, and nothing else of the scope changes but its revision. -/
theorem given_eq : ∀ (entries : List (String × List String)) (s : Scope),
    ∃ revision, s.revision ≤ revision ∧
      s.given entries = { s with clearances := s.clearances.addAll entries, revision }
  | [], s => ⟨s.revision, Nat.le_refl _, rfl⟩
  | e :: rest, s => by
      obtain ⟨revision, hle, hrest⟩ := given_eq rest (s.addClearances e.1 e.2)
      have hfirst := (changed_addClearances s e.1 e.2).revision
      refine ⟨revision, Nat.le_trans hfirst hle, hrest.trans ?_⟩
      rw [clearances_addClearances]
      unfold addClearances
      dsimp only
      split <;> rfl

theorem cleared_eq (lists : List (String × String)) (s : Scope) :
    ∃ revision, s.cleared lists = { s with clearances := s.clearances.addLists lists, revision } := by
  obtain ⟨revision, -, hgiven⟩ := given_eq (TokenTable.listed lists) s
  exact ⟨revision, (s.cleared_eq_given lists).trans (s.clearances.addLists_eq_addAll lists ▸ hgiven)⟩

/-- Scopes with the same name, tokens and patterns. -/
structure SameContents (s s' : Scope) : Prop where
  accessor : s'.accessor = s.accessor
  tokens : ∀ d, s'.clearances.tokens d = s.clearances.tokens d
  dimensions : ∀ d, d ∈ s'.clearances.dimensions ↔ d ∈ s.clearances.dimensions
  granted : s'.granted = s.granted
  denied : s'.denied = s.denied

end Scope

/-! ### A configuration -/

namespace Config

/-- What a configuration makes of the root. -/
def onRoot (c : Config) (s : Scope) : Scope :=
  ((s.named c.accessor).cleared c.clearances.entries).permitted c.permissions

/-- What a configuration gives to a scope, part by part. All else that the scope is stays, but for the number of
its changes. -/
theorem onRoot_eq (c : Config) (s : Scope) :
    ∃ revision, c.onRoot s = { s with
      accessor := c.accessor.or s.accessor
      clearances := s.clearances.addLists c.clearances.entries
      granted := (Scope.splitPermissions c.permissions).1.foldl TokenTable.withToken s.granted
      denied := (Scope.splitPermissions c.permissions).2.foldl TokenTable.withToken s.denied
      revision } := by
  obtain ⟨revision, hcleared⟩ := Scope.cleared_eq c.clearances.entries (s.named c.accessor)
  unfold onRoot Scope.permitted
  rw [hcleared]
  exact ⟨_, rfl⟩

/-- Laid over another one or given behind it, a configuration makes the same of a scope. -/
theorem sameContents_overlay (a b : Config) (s : Scope) :
    (b.onRoot (a.onRoot s)).SameContents ((a.overlay b).onRoot s) := by
  obtain ⟨_, hmerged⟩ := (a.overlay b).onRoot_eq s
  obtain ⟨_, hfirst⟩ := a.onRoot_eq s
  obtain ⟨_, hsecond⟩ := b.onRoot_eq (a.onRoot s)
  rw [hmerged, hsecond, hfirst]
  constructor
  · exact Option.or_assoc
  · intro d
    dsimp only
    rw [TokenTable.tokens_addLists (a.overlay b).clearances.ascending,
      TokenTable.tokens_addLists b.clearances.ascending, TokenTable.tokens_addLists a.clearances.ascending]
    exact (congrArg (List.foldl _ _) (tokensOf_overlay a b d)).trans List.foldl_append
  · intro d
    rw [TokenTable.mem_dimensions_addLists, TokenTable.mem_dimensions_addLists, TokenTable.mem_dimensions_addLists,
      or_assoc]
    exact or_congr_right mem_names_overlay
  · show List.foldl _ _ (Scope.splitPermissions (a.permissions ++ b.permissions)).1 = _
    simp only [Scope.splitPermissions_eq, List.filter_append, List.foldl_append]
  · show List.foldl _ _ (Scope.splitPermissions (a.permissions ++ b.permissions)).2 = _
    simp only [Scope.splitPermissions_eq, List.filterMap_append, List.foldl_append]

/-- Given twice, a configuration changes nothing more than the number of changes. -/
theorem onRoot_onRoot (c : Config) (s : Scope) :
    ∃ revision, c.onRoot (c.onRoot s) = { c.onRoot s with revision } := by
  obtain ⟨_, hfirst⟩ := c.onRoot_eq s
  obtain ⟨revision, hsecond⟩ := c.onRoot_eq (c.onRoot s)
  have htwice : ∀ tokens held : List String,
      tokens.foldl TokenTable.withToken (tokens.foldl TokenTable.withToken held) =
        tokens.foldl TokenTable.withToken held := fun tokens held =>
    TokenTable.foldl_withToken_of_subset fun t ht => TokenTable.mem_foldl_withToken.mpr (.inr ht)
  refine ⟨revision, hsecond.trans ?_⟩
  rw [hfirst]
  dsimp only
  rw [TokenTable.addLists_addLists, htwice, htwice, ← Option.or_assoc, Option.or_self]

end Config

/-! ### The stack -/

namespace ScopeStack

/-- A scope that is changed where it stands. -/
theorem scopes_update (t : ScopeStack) (n : Nat) (f : Scope → Scope) :
    (t.update n (f (t.scope n))).scopes = t.scopes.modify n f := by
  show t.scopes.set n (f (t.scope n)) = _
  unfold scope scope?
  rw [List.modify_eq_set_getElem?]
  cases h : t.scopes[n]? with
  | none => exact List.set_eq_of_length_le (List.getElem?_eq_none_iff.mp h)
  | some s => rfl

theorem scopes_addClearanceLists (n : Nat) : ∀ (lists : List (String × String)) (t : ScopeStack),
    (t.addClearanceLists n lists).scopes = t.scopes.modify n (·.cleared lists)
  | [], t => (List.modify_id n t.scopes).symm
  | e :: rest, t => by
      have hfirst : (t.addClearances n e.1 (splitTokenList e.2)).scopes =
          t.scopes.modify n (·.addClearances e.1 (splitTokenList e.2)) :=
        scopes_update t n (·.addClearances e.1 (splitTokenList e.2))
      show ((t.addClearances n e.1 (splitTokenList e.2)).addClearanceLists n rest).scopes = _
      rw [scopes_addClearanceLists n rest, hfirst, List.modify_modify_eq]
      rfl

theorem addPermissions_eq (t : ScopeStack) (n : Nat) (tokens : List String) :
    t.addPermissions n tokens = ((Scope.patternsOf tokens).findSome? t.matcher.fault?).elim
      (.ok (t.update n ((t.scope n).permitted tokens))) .error := by
  unfold addPermissions insertPermissions
  dsimp only
  rw [Scope.addPermissions_eq]
  cases (Scope.patternsOf tokens).findSome? t.matcher.fault? <;> rfl

end ScopeStack

end RowAccess
