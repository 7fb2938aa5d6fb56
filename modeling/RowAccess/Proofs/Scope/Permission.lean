import Mathlib.Data.List.Basic
import Mathlib.Tactic.Common
import RowAccess.Proofs.Scope.Current

/-!
# Permissions that scopes hold

An insertion is one pattern that is granted or denied in one scope. What a scope permits is told by the patterns
that are held in its lineage, in whatever order they came and however often. `ScopeStack.Gives` says that a stack
holds what an earlier one held and some insertions besides: nothing that is done to a stack takes a pattern away.
-/

namespace RowAccess

/-! ### One scope -/

namespace Scope

/-- The patterns that a scope denies, or that it grants. -/
def patterns (s : Scope) (denied : Bool) : List String := if denied then s.denied else s.granted

variable {s s' : Scope} {m : Matcher} {granted denied : List String}

theorem not_mem_patterns_root {b : Bool} {p : String} : p ∉ root.patterns b := by
  cases b <;> exact List.not_mem_nil

/-- Where patterns are added, all of them can be read, and the scope holds them with those that it held. -/
theorem addPermissions_ok (h : s.addPermissions m granted denied = .ok s') :
    (∀ p ∈ granted ++ denied, m.fault? p = none) ∧
      ∀ b p, p ∈ s'.patterns b ↔ p ∈ s.patterns b ∨ p ∈ if b then denied else granted := by
  obtain ⟨hread, revision, -, rfl⟩ := addPermissions_eq_ok h
  refine ⟨List.findSome?_eq_none_iff.mp hread, fun b p => ?_⟩
  cases b <;> exact TokenTable.mem_foldl_withToken

/-- Where patterns are refused, one of them cannot be read. -/
theorem addPermissions_error {f : Fault} (h : s.addPermissions m granted denied = .error f) :
    ∃ p ∈ granted ++ denied, m.fault? p ≠ none := by
  obtain ⟨p, hp, heq⟩ := List.exists_of_findSome?_eq_some (addPermissions_eq_error h)
  exact ⟨p, hp, by rw [heq]; exact Option.some_ne_none _⟩

theorem patterns_addClearances (s : Scope) (dimension : String) (tokens : List String) :
    (s.addClearances dimension tokens).patterns = s.patterns := by
  unfold addClearances
  dsimp only
  split <;> rfl

/-! ### Lineages -/

/-- What scopes of a lineage have is what they have together, each of it once. -/
theorem mem_distinct_map {lineage : List Scope} {f : Scope → List String} {p : String} :
    p ∈ distinct (lineage.map f) ↔ ∃ s ∈ lineage, p ∈ f s := by
  unfold distinct
  rw [TokenTable.mem_foldl_withToken]
  simp

/-- A name is permitted where a granted pattern of the lineage matches it and no denied one does. -/
theorem isPermitted_iff {lineage : List Scope} {name : String} :
    isPermitted m lineage name = true ↔
      (∃ s ∈ lineage, ∃ p ∈ s.granted, m.isMatch p name = true) ∧
        ∀ s ∈ lineage, ∀ p ∈ s.denied, m.isMatch p name = false := by
  unfold isPermitted
  rw [Bool.and_eq_true, List.any_eq_true, Bool.not_eq_true', List.any_eq_false]
  refine and_congr ⟨?_, ?_⟩ ⟨?_, ?_⟩
  · rintro ⟨p, hp, hmatch⟩
    obtain ⟨s, hs, hp⟩ := mem_distinct_map.mp hp
    exact ⟨s, hs, p, hp, hmatch⟩
  · rintro ⟨s, hs, p, hp, hmatch⟩
    exact ⟨p, mem_distinct_map.mpr ⟨s, hs, hp⟩, hmatch⟩
  · intro h s hs p hp
    exact Bool.eq_false_iff.mpr (h p (mem_distinct_map.mpr ⟨s, hs, hp⟩))
  · intro h p hp
    obtain ⟨s, hs, hp⟩ := mem_distinct_map.mp hp
    exact Bool.eq_false_iff.mp (h s hs p hp)

end Scope

/-! ### Insertions -/

/-- A pattern that is granted or denied in the scope with a number. -/
structure Insertion where
  scope : Nat
  denied : Bool
  pattern : String
deriving Repr, DecidableEq

/-- A permission token in a scope: what stands behind an exclamation mark is denied. -/
def Insertion.ofToken (scope : Nat) (token : String) : Insertion :=
  match token.toList with
  | '!' :: rest => ⟨scope, true, String.ofList rest⟩
  | _ => ⟨scope, false, token⟩

/-- The insertions of permission tokens in a scope are its granted patterns and its denied ones. -/
theorem Scope.mem_splitPermissions {n : Nat} {i : Insertion} : ∀ {tokens : List String},
    i ∈ tokens.map (Insertion.ofToken n) ↔
      i.scope = n ∧ i.pattern ∈
        if i.denied then (splitPermissions tokens).2 else (splitPermissions tokens).1
  | [] => by cases i.denied <;> simp [splitPermissions]
  | token :: rest => by
      have ih := @mem_splitPermissions n i rest
      have hcons : splitPermissions (token :: rest) =
          match token.toList with
          | '!' :: text =>
              ((splitPermissions rest).1, String.ofList text :: (splitPermissions rest).2)
          | _ => (token :: (splitPermissions rest).1, (splitPermissions rest).2) := rfl
      obtain ⟨scope, denied, pattern⟩ := i
      rw [List.map_cons, List.mem_cons, ih, hcons]
      unfold Insertion.ofToken
      split
      · cases denied <;> simp [and_or_left]
      · cases denied <;> simp [and_or_left]

namespace ScopeStack

variable {t t' t'' : ScopeStack} {n : Nat} {l l' : List Insertion}

/-- Whether a scope holds a pattern as granted or as denied. -/
def Holds (t : ScopeStack) (i : Insertion) : Prop := i.pattern ∈ (t.scope i.scope).patterns i.denied

/-- Only scopes that were made hold patterns. -/
theorem scope?_of_holds {i : Insertion} (h : t.Holds i) : ∃ s, t.scope? i.scope = some s := by
  cases hs : t.scope? i.scope with
  | some s => exact ⟨s, rfl⟩
  | none =>
    unfold Holds scope at h
    rw [hs] at h
    exact absurd h Scope.not_mem_patterns_root

/-- A new stack holds no pattern. -/
theorem not_holds_new (m : Matcher) (i : Insertion) : ¬ (new m).Holds i := by
  intro h
  obtain ⟨s, hs⟩ := scope?_of_holds h
  unfold Holds at h
  rw [scope_of_scope? hs, List.mem_singleton.mp (List.mem_of_getElem? hs)] at h
  exact Scope.not_mem_patterns_root h

/-- What comes of a call with insertions: all of them where there is the scope and every pattern can be read, or
else none. -/
def taken (t : ScopeStack) (scope : Nat) (l : List Insertion) : List Insertion :=
  if scope < t.scopes.length ∧ ∀ i ∈ l, t.matcher.fault? i.pattern = none then l else []

/-- A stack that holds what another one holds and insertions besides. -/
structure Gives (t t' : ScopeStack) (l : List Insertion) : Prop where
  matcher : t'.matcher = t.matcher
  holds : ∀ i, t'.Holds i ↔ t.Holds i ∨ i ∈ l

theorem Gives.refl (t : ScopeStack) : Gives t t [] := ⟨rfl, fun _ => (or_iff_left List.not_mem_nil).symm⟩

theorem Gives.trans (h : Gives t t' l) (h' : Gives t' t'' l') : Gives t t'' (l ++ l') where
  matcher := h'.matcher.trans h.matcher
  holds i := by rw [h'.holds, h.holds, List.mem_append, or_assoc]

/-- Scopes with the same patterns hold the same. -/
theorem gives_nil (hmatcher : t'.matcher = t.matcher)
    (h : ∀ n, (t'.scope n).patterns = (t.scope n).patterns) : Gives t t' [] where
  matcher := hmatcher
  holds i := by
    unfold Holds
    rw [h]
    exact (or_iff_left List.not_mem_nil).symm

/-! ### Changes that insert nothing -/

theorem gives_update {s : Scope} (hs : s.patterns = (t.scope n).patterns) : Gives t (t.update n s) [] :=
  gives_nil rfl (scope_update_map hs)

theorem gives_setAccessor (t : ScopeStack) (n : Nat) (name : String) : Gives t (t.setAccessor n name) [] :=
  gives_update rfl

theorem gives_addClearances (t : ScopeStack) (n : Nat) (dimension : String) (tokens : List String) :
    Gives t (t.addClearances n dimension tokens) [] :=
  gives_update (Scope.patterns_addClearances _ dimension tokens)

theorem gives_addClearanceLists (n : Nat) : ∀ (lists : List (String × String)) (t : ScopeStack),
    Gives t (t.addClearanceLists n lists) []
  | [], t => .refl t
  | e :: rest, t =>
      (gives_addClearances t n e.1 (splitTokenList e.2)).trans (gives_addClearanceLists n rest _)

/-- A new scope holds no pattern of its own. -/
theorem gives_enter (t : ScopeStack) (place : Place) : Gives t (t.enter place).1 [] :=
  gives_nil rfl (scope_enter_map (fun _ _ => rfl) t place)

/-- A scope that is left keeps its patterns. -/
theorem gives_exit (t : ScopeStack) (place : Place) (n : Nat) : Gives t (t.exit place n).1 [] :=
  gives_nil (matcher_exit t place n) fun k => by rw [scope, scope?, scopes_exit, scope, scope?]

/-! ### Insertions -/

/-- A call inserts all its patterns, or fails and inserts none. -/
theorem gives_insertPermissions (t : ScopeStack) (n : Nat) {granted denied : List String}
    (hl : ∀ i, i ∈ l ↔ i.scope = n ∧ i.pattern ∈ if i.denied then denied else granted) :
    Gives t ((t.insertPermissions n granted denied).toOption.getD t) (t.taken n l) := by
  have hpatterns : (∀ i ∈ l, t.matcher.fault? i.pattern = none) ↔
      ∀ p ∈ granted ++ denied, t.matcher.fault? p = none := by
    constructor
    · intro h p hp
      rcases List.mem_append.mp hp with hp | hp
      · exact h ⟨n, false, p⟩ ((hl _).mpr ⟨rfl, hp⟩)
      · exact h ⟨n, true, p⟩ ((hl _).mpr ⟨rfl, hp⟩)
    · intro h i hi
      have hp := ((hl i).mp hi).2
      split at hp
      · exact h _ (List.mem_append_right _ hp)
      · exact h _ (List.mem_append_left _ hp)
  unfold taken insertPermissions
  cases hs : (t.scope n).addPermissions t.matcher granted denied with
  | error f =>
    obtain ⟨p, hp, hfault⟩ := Scope.addPermissions_error hs
    rw [if_neg fun h => hfault (hpatterns.mp h.2 p hp)]
    exact .refl t
  | ok s =>
    obtain ⟨hread, hadded⟩ := Scope.addPermissions_ok hs
    show Gives t (t.update n s) _
    by_cases hlt : n < t.scopes.length
    · rw [if_pos ⟨hlt, hpatterns.mpr hread⟩]
      refine ⟨rfl, fun i => ?_⟩
      rw [hl]
      unfold Holds
      by_cases hi : i.scope = n
      · rw [hi, scope_update hlt, hadded]
        exact or_congr_right (and_iff_right rfl).symm
      · rw [scope_update_of_ne hi]
        exact (or_iff_left fun h => hi h.1).symm
    · rw [if_neg fun h => hlt h.1, update_of_none (List.getElem?_eq_none (Nat.le_of_not_lt hlt))]
      exact .refl t

theorem gives_addPermissions (t : ScopeStack) (n : Nat) (tokens : List String) :
    Gives t ((t.addPermissions n tokens).toOption.getD t) (t.taken n (tokens.map (.ofToken n))) :=
  gives_insertPermissions t n fun _ => Scope.mem_splitPermissions

theorem gives_addDenied (t : ScopeStack) (n : Nat) (patterns : List String) :
    Gives t ((t.addDenied n patterns).toOption.getD t) (t.taken n (patterns.map (⟨n, true, ·⟩))) := by
  refine gives_insertPermissions t n fun i => ?_
  obtain ⟨scope, denied, pattern⟩ := i
  cases denied <;> simp [eq_comm, and_comm]

end ScopeStack

end RowAccess
