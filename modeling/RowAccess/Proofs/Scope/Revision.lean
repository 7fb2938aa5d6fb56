import Mathlib.Data.List.Basic
import Mathlib.Tactic.Common
import RowAccess.Proofs.Scope.Configuration

/-!
# What counts as a change

A gift is what one call gives to a scope: tokens by dimension, or patterns. It counts as a change where a scope comes
to hold something by it, with two exceptions: a dimension that is recorded without a new token is not counted, and
patterns are counted though all of them are held already. The epoch of the stack moves as far as the revision.
-/

namespace RowAccess

/-! ### One scope -/

namespace Scope

variable {s : Scope} {entries : List (String × List String)}

/-- Scopes with the same clearances, recorded dimensions included, and the same patterns. -/
structure SameHoldings (s s' : Scope) : Prop where
  clearances : s'.clearances = s.clearances
  granted : s'.granted = s.granted
  denied : s'.denied = s.denied

theorem SameHoldings.refl (s : Scope) : s.SameHoldings s := ⟨rfl, rfl, rfl⟩

instance (s s' : Scope) : Decidable (s.SameHoldings s') :=
  decidable_of_iff (s'.clearances = s.clearances ∧ s'.granted = s.granted ∧ s'.denied = s.denied)
    ⟨fun h => ⟨h.1, h.2.1, h.2.2⟩, fun h => ⟨h.clearances, h.granted, h.denied⟩⟩

/-- Tokens that are all held are not counted. -/
theorem revision_addClearances (s : Scope) (dimension : String) (tokens : List String) :
    (s.addClearances dimension tokens).revision =
      if ∀ token ∈ tokens, token ∈ s.clearances.tokens dimension then s.revision else s.revision + 1 := by
  have hall : tokens.all (s.clearances.tokens dimension).contains = true ↔
      ∀ token ∈ tokens, token ∈ s.clearances.tokens dimension := by
    simp only [List.all_eq_true, List.contains_iff_mem]
  unfold addClearances
  dsimp only
  split
  next h => rw [if_pos (hall.mp h)]
  next h => rw [if_neg fun hheld => h (hall.mpr hheld)]; rfl

/-- A revision stays where all tokens that are given are held, and only there. -/
theorem revision_given_eq_iff :
    (s.given entries).revision = s.revision ↔
      ∀ e ∈ entries, ∀ token ∈ e.2, token ∈ s.clearances.tokens e.1 := by
  induction entries generalizing s with
  | nil => exact iff_of_true rfl fun e he => absurd he List.not_mem_nil
  | cons e rest ih =>
    have hfirst := s.revision_addClearances e.1 e.2
    obtain ⟨revision, hle, hrest⟩ := given_eq rest (s.addClearances e.1 e.2)
    have hrevision : (s.given (e :: rest)).revision = revision := congrArg Scope.revision hrest
    rw [List.forall_mem_cons]
    by_cases hheld : ∀ token ∈ e.2, token ∈ s.clearances.tokens e.1
    · rw [if_pos hheld] at hfirst
      have htokens : (s.addClearances e.1 e.2).clearances.tokens = s.clearances.tokens :=
        (changed_addClearances s e.1 e.2).tokens hfirst
      have hlater := ih (s := s.addClearances e.1 e.2)
      rw [hfirst, htokens] at hlater
      exact hlater.trans (and_iff_right hheld).symm
    · -- A new token counts at once, and nothing that is given after it takes the count back.
      rw [if_neg hheld] at hfirst
      refine iff_of_false (fun h => ?_) fun h => hheld h.1
      omega

/-- Tokens change the holdings of a scope where one is not held or a dimension is not recorded, and only there. -/
theorem sameHoldings_given_iff : s.SameHoldings (s.given entries) ↔ ∀ e ∈ entries, s.clearances.Has e := by
  obtain ⟨revision, -, heq⟩ := given_eq entries s
  rw [heq, ← TokenTable.addAll_eq_self_iff]
  exact ⟨SameHoldings.clearances, fun h => ⟨h, rfl, rfl⟩⟩

theorem sameHoldings_inserted_iff {granted denied : List String} :
    s.SameHoldings (s.inserted granted denied) ↔ (∀ p ∈ granted, p ∈ s.granted) ∧ ∀ p ∈ denied, p ∈ s.denied := by
  rw [← TokenTable.foldl_withToken_eq_self_iff, ← TokenTable.foldl_withToken_eq_self_iff]
  exact ⟨fun h => ⟨h.granted, h.denied⟩, fun h => ⟨rfl, h.1, h.2⟩⟩

theorem revision_inserted (s : Scope) (granted denied : List String) :
    (s.inserted granted denied).revision = if granted ++ denied = [] then s.revision else s.revision + 1 := by
  have hempty : (granted.isEmpty && denied.isEmpty) = true ↔ granted ++ denied = [] := by
    rw [Bool.and_eq_true, List.isEmpty_iff, List.isEmpty_iff, List.append_eq_nil_iff]
  by_cases h : granted ++ denied = []
  · rw [if_pos h]
    exact if_pos (hempty.mpr h)
  · rw [if_neg h]
    exact if_neg (mt hempty.mp h)

end Scope

/-! ### Gifts -/

/-- What one call gives to a scope. -/
inductive Gift
  | tokens (entries : List (String × List String))
  | patterns (granted denied : List String)

namespace Gift

/-- The scope that was given something; patterns that cannot all be read are not given. -/
def result (m : Matcher) (s : Scope) : Gift → Scope
  | tokens entries => s.given entries
  | patterns granted denied => (s.addPermissions m granted denied).toOption.getD s

/-- A dimension is recorded, but no token is given that is not held. -/
def Records (s : Scope) : Gift → Prop
  | tokens entries =>
      (∀ e ∈ entries, ∀ token ∈ e.2, token ∈ s.clearances.tokens e.1) ∧ ∃ e ∈ entries, e.1 ∉ s.clearances.dimensions
  | patterns _ _ => False

/-- Patterns are given, and all of them are held already. -/
def Repeats (m : Matcher) (s : Scope) : Gift → Prop
  | tokens _ => False
  | patterns granted denied =>
      granted ++ denied ≠ [] ∧ (∀ p ∈ granted ++ denied, m.fault? p = none) ∧
        (∀ p ∈ granted, p ∈ s.granted) ∧ ∀ p ∈ denied, p ∈ s.denied

instance (s : Scope) : ∀ g : Gift, Decidable (g.Records s)
  | tokens _ => inferInstanceAs (Decidable (_ ∧ _))
  | patterns _ _ => inferInstanceAs (Decidable False)

instance (m : Matcher) (s : Scope) : ∀ g : Gift, Decidable (g.Repeats m s)
  | tokens _ => inferInstanceAs (Decidable False)
  | patterns _ _ => inferInstanceAs (Decidable (_ ∧ _ ∧ _ ∧ _))

/-- How the number of changes goes with the changes themselves: they go together but for two kinds of gifts. -/
structure Counted (m : Matcher) (s : Scope) (g : Gift) : Prop where
  moves : ¬ g.Records s → ¬ g.Repeats m s →
    ((g.result m s).revision = s.revision ↔ s.SameHoldings (g.result m s))
  records : g.Records s → (g.result m s).revision = s.revision ∧ ¬ s.SameHoldings (g.result m s)
  repeats : g.Repeats m s → (g.result m s).revision = s.revision + 1 ∧ s.SameHoldings (g.result m s)

theorem counted_tokens (m : Matcher) (s : Scope) (entries : List (String × List String)) :
    (tokens entries).Counted m s := by
  have hrevision : ((tokens entries).result m s).revision = s.revision ↔ _ := Scope.revision_given_eq_iff
  have hsame : s.SameHoldings ((tokens entries).result m s) ↔ _ := Scope.sameHoldings_given_iff
  refine ⟨fun hnot _ => ?_, fun ⟨hheld, e, he, hnew⟩ => ?_, fun h => h.elim⟩
  · rw [hrevision, hsame]
    refine ⟨fun hheld e he => ⟨?_, hheld e he⟩, fun h e he => (h e he).2⟩
    by_contra hnew
    exact hnot ⟨hheld, e, he, hnew⟩
  · exact ⟨hrevision.mpr hheld, fun h => hnew (hsame.mp h e he).1⟩

theorem counted_patterns (m : Matcher) (s : Scope) (granted denied : List String) :
    (patterns granted denied).Counted m s := by
  have hread : (granted ++ denied).findSome? m.fault? = none ↔ ∀ p ∈ granted ++ denied, m.fault? p = none :=
    List.findSome?_eq_none_iff
  have hresult : (patterns granted denied).result m s = (s.addPermissions m granted denied).toOption.getD s := rfl
  rw [Scope.addPermissions_eq_inserted] at hresult
  cases hfault : (granted ++ denied).findSome? m.fault? with
  | some f =>
    replace hresult : (patterns granted denied).result m s = s := by rw [hresult, hfault]; rfl
    rw [hfault] at hread
    constructor <;> rw [hresult]
    · exact fun _ _ => iff_of_true rfl (.refl s)
    · exact fun h => h.elim
    · exact fun h => nomatch hread.mpr h.2.1
  | none =>
    replace hresult : (patterns granted denied).result m s = s.inserted granted denied := by rw [hresult, hfault]; rfl
    have hrevision := s.revision_inserted granted denied
    have hsame : s.SameHoldings (s.inserted granted denied) ↔ _ := Scope.sameHoldings_inserted_iff
    constructor <;> rw [hresult, hrevision, hsame]
    · intro _ hnot
      split
      next hnone =>
        obtain ⟨rfl, rfl⟩ := List.append_eq_nil_iff.mp hnone
        exact iff_of_true rfl ⟨fun _ h => absurd h List.not_mem_nil, fun _ h => absurd h List.not_mem_nil⟩
      next hsome => exact iff_of_false (Nat.succ_ne_self _) fun hheld => hnot ⟨hsome, hread.mp hfault, hheld⟩
    · exact fun h => h.elim
    · exact fun ⟨hsome, _, hheld⟩ => ⟨if_neg hsome, hheld⟩

theorem counted (m : Matcher) (s : Scope) : ∀ g : Gift, g.Counted m s
  | tokens entries => counted_tokens m s entries
  | patterns granted denied => counted_patterns m s granted denied

end Gift

/-! ### The stack -/

namespace ScopeStack

variable {t t' : ScopeStack} {n : Nat} {s : Scope}

/-- When one scope is changed, the epoch moves as far as the revision of the scope. -/
theorem Changes.moved (h : Changes t n t') (hs : t.scope? n = some s) :
    ∃ s', t'.scope? n = some s' ∧ s.revision ≤ s'.revision ∧ t'.epoch + s.revision = t.epoch + s'.revision := by
  induction h with
  | refl => exact ⟨s, hs, Nat.le_refl _, rfl⟩
  | @update t' _ changed hchanged ih =>
    obtain ⟨s', hs', hle, hepoch⟩ := ih
    have hstep := hchanged.revision
    have hnew : (t'.update n changed).scope? n = some changed := by
      rw [scope?_update, if_pos rfl, hs', Option.map_some]
    rw [scope_of_scope? hs'] at hstep
    refine ⟨changed, hnew, Nat.le_trans hle hstep, ?_⟩
    rw [epoch_update, scope_of_scope? hnew, scope_of_scope? hs']
    omega

/-- What comes of inserting patterns into a scope that there is. -/
theorem scope?_insertPermissions (hs : t.scope? n = some s) (granted denied : List String) :
    ((t.insertPermissions n granted denied).toOption.getD t).scope? n =
      some ((Gift.patterns granted denied).result t.matcher s) := by
  show _ = some ((s.addPermissions t.matcher granted denied).toOption.getD s)
  unfold insertPermissions
  rw [scope_of_scope? hs]
  cases s.addPermissions t.matcher granted denied with
  | error f => exact hs
  | ok s' =>
    show (t.update n s').scope? n = some s'
    rw [scope?_update, if_pos rfl, hs, Option.map_some]

theorem changes_attempt {result : Except Fault ScopeStack} (h : ∀ t', result = .ok t' → Changes t n t') :
    Changes t n (result.toOption.getD t) := by
  cases result with
  | error f => exact .refl
  | ok t' => exact h t' rfl

end ScopeStack

end RowAccess
