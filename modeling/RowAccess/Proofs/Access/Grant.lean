import Mathlib.Data.List.Basic
import Mathlib.Tactic.Common
import RowAccess.Proofs.Access.CurrentScope

/-!
# Where granted tokens come from

A line is granted what the scopes of a lineage hold: its current scope, which is the root or still entered,
and those around it. A scope around it may have been left already, since a guard can be used before those of
the scopes within; what such a scope holds is granted for as long as the scope within is entered. No token of
any other scope that was left is ever granted.
-/

namespace RowAccess

namespace ScopeStack

variable {t : ScopeStack} {n : Nat} {s : Scope} {place : Place}

/-- The numbers of the scopes around one, the nearest first. -/
def around (t : ScopeStack) (serial : Nat) : List Nat := (t.lineage serial).tail.map Scope.serial

/-- A lineage begins with the scope itself. -/
theorem lineage_eq_cons (hs : t.scope? n = some s) : ∃ outer, t.lineage n = s :: outer := by
  rw [lineage]
  simp only [hs]
  cases s.parent with
  | none => exact ⟨[], rfl⟩
  | some p =>
    dsimp only
    split
    · exact ⟨t.lineage p, rfl⟩
    · exact ⟨[], rfl⟩

/-- The scopes of a lineage are found by their numbers. -/
theorem Tree.scope?_of_mem_lineage (h : t.Tree) (hs : s ∈ t.lineage n) : t.scope? s.serial = some s := by
  cases hn : t.scope? n with
  | none =>
    rw [lineage_of_none hn] at hs
    cases hs
  | some q =>
    refine h.outward (P := fun n _ => ∀ s ∈ t.lineage n, t.scope? s.serial = some s) ?_ ?_ hn s hs
    · intro r hr hparent _ s hs
      rw [lineage_root hr hparent, List.mem_singleton] at hs
      rw [hs, h.serial hr, hr]
    · intro n p s q hlt hs _ hparent _ ih s' hs'
      rw [lineage_child hs hparent hlt] at hs'
      rcases List.mem_cons.mp hs' with rfl | hs'
      · rw [h.serial hs, hs]
      · exact ih s' hs'

/-- What a scope is granted is held by a scope of its lineage. -/
theorem mem_effectiveClearances {dimension token : String} :
    token ∈ t.effectiveClearances n dimension ↔
      ∃ s ∈ t.lineage n, token ∈ s.clearances.tokens dimension := by
  unfold effectiveClearances Scope.effectiveClearances Scope.distinct
  rw [TokenTable.mem_foldl_withToken]
  simp

/-- The current scope of a place is the root, or its guard was not used. -/
theorem Tree.current_entered (h : t.Tree) (hp : t.Placed place) :
    t.current place = Scope.rootSerial ∨ t.isEntered (t.current place) = true := by
  cases place with
  | none => exact .inl rfl
  | some path =>
    obtain ⟨n, s, -, hs, rfl⟩ := hp path rfl
    show t.nearest s.path = _ ∨ t.isEntered (t.nearest s.path) = true
    rw [h.nearest_eq hs]
    cases hfind : s.path.find? t.isEntered with
    | none => exact .inl rfl
    | some m => exact .inr (List.find?_some hfind)

end ScopeStack

namespace Access

/-- In every state that a run comes to, each token that the stack reports to a line is held by the root, by a
scope that is still entered, or by a scope around the line's current one, which is itself still entered then. -/
theorem reported_token_held (c : Catalog) (m : Matcher) (acts : List (Nat × Action)) (line : Nat)
    (dimension token : String) :
    let a := ((separate c m).run acts).1
    token ∈ (a.view line .stack).tokens dimension →
      ∃ n, token ∈ (a.stack.scope n).clearances.tokens dimension ∧
        (n = Scope.rootSerial ∨ a.stack.isEntered n = true ∨
          a.stack.isEntered (a.current line) = true ∧ n ∈ a.stack.around (a.current line)) := by
  intro a htoken
  have h : a.InTree := (inTree_separate c m).run acts
  have hcurrent := h.tree.current_entered (h.place line)
  obtain ⟨s, hs, hheld⟩ := ScopeStack.mem_effectiveClearances.mp htoken
  have hfound := h.tree.scope?_of_mem_lineage hs
  refine ⟨s.serial, by rwa [ScopeStack.scope_of_scope? hfound], ?_⟩
  obtain ⟨q, hq⟩ := h.tree.current_exists (h.place line)
  obtain ⟨outer, hlineage⟩ := ScopeStack.lineage_eq_cons hq
  rw [hlineage] at hs
  rcases List.mem_cons.mp hs with rfl | hs
  · rw [h.tree.serial hq]
    exact hcurrent.imp_right .inl
  · have haround : s.serial ∈ a.stack.around (a.current line) := by
      show s.serial ∈ ((a.stack.lineage (a.stack.current (a.place line))).tail.map Scope.serial)
      rw [hlineage]
      exact List.mem_map_of_mem hs
    rcases hcurrent with hroot | hentered
    · -- The root has no scope around it.
      obtain ⟨r, hr, hparent, -⟩ := h.tree.root
      rw [hroot, ScopeStack.lineage] at hlineage
      simp only [hr, hparent] at hlineage
      obtain ⟨-, rfl⟩ := List.cons_eq_cons.mp hlineage
      cases hs
    · exact .inr (.inr ⟨hentered, haround⟩)

/-- A scope is given a token, another one is entered within it, and the guard of the first is used. -/
def outerLeftFirst : List (Nat × Action) :=
  [(0, .enter), (0, .addClearances .current "region" ["EU"]), (0, .enter), (0, .exit 1)]

theorem reported_token_held_outerLeftFirst :
    let a := ((separate [] .standard).run outerLeftFirst).1
    "EU" ∈ (a.view 0 .stack).tokens "region" ∧
      ∃ n, "EU" ∈ (a.stack.scope n).clearances.tokens "region" ∧
        (n = Scope.rootSerial ∨ a.stack.isEntered n = true ∨
          a.stack.isEntered (a.current 0) = true ∧ n ∈ a.stack.around (a.current 0)) :=
  ⟨by decide +kernel, reported_token_held [] .standard outerLeftFirst 0 "region" "EU" (by decide +kernel)⟩

/-- A scope that was left still grants its tokens to a scope within it that is entered: it is not so that only
the root and entered scopes grant tokens. -/
theorem left_scope_grants :
    ¬ ∀ (c : Catalog) (m : Matcher) (acts : List (Nat × Action)) (line : Nat) (dimension token : String),
      let a := ((separate c m).run acts).1
      token ∈ (a.view line .stack).tokens dimension →
        ∃ n, token ∈ (a.stack.scope n).clearances.tokens dimension ∧
          (n = Scope.rootSerial ∨ a.stack.isEntered n = true) := by
  intro h
  obtain ⟨n, hheld, hn⟩ := h [] .standard outerLeftFirst 0 "region" "EU" (by decide +kernel)
  match n with
  | 0 => exact absurd hheld (by decide)
  | 1 => exact absurd hn (by decide)
  | 2 => exact absurd hheld (by decide)
  | n + 3 => cases hheld

end Access

end RowAccess
