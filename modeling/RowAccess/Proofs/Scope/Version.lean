import Mathlib.Data.List.Basic
import Mathlib.Tactic.Common
import RowAccess.Proofs.Scope.Change

/-!
# Versions of the stack

The stack reports its epoch and the number of the current scope as the version of its clearances. A stack
that follows another one in a run has a later epoch, or holds the same tokens in every scope; so a version
never stands for two tables of tokens.
-/

namespace RowAccess.ScopeStack

/-- A stack later in a run: every change of tokens moves the epoch. -/
structure Follows (t t' : ScopeStack) : Prop where
  epoch : t.epoch ≤ t'.epoch
  tokens : t'.epoch = t.epoch → t'.effectiveClearances = t.effectiveClearances

variable {t t' t'' : ScopeStack}

theorem Follows.refl (t : ScopeStack) : Follows t t := ⟨Nat.le_refl _, fun _ => rfl⟩

theorem Follows.trans (h : Follows t t') (h' : Follows t' t'') : Follows t t'' where
  epoch := Nat.le_trans h.epoch h'.epoch
  tokens heq := by
    have hmid : t'.epoch = t.epoch := Nat.le_antisymm (heq ▸ h'.epoch) h.epoch
    rw [h'.tokens (heq.trans hmid.symm), h.tokens hmid]

/-- Scopes with the same parents and the same tokens see the same. -/
theorem effectiveClearances_congr
    (hparent : ∀ n, (t'.scope? n).map Scope.parent = (t.scope? n).map Scope.parent)
    (htokens : ∀ n d, (t'.scope? n).map (fun s => s.clearances.tokens d) =
      (t.scope? n).map fun s => s.clearances.tokens d) :
    t'.effectiveClearances = t.effectiveClearances := by
  funext n d
  have hlineage := lineage_map_congr (n := n) (fun m _ => hparent m) (fun m _ => htokens m d)
  show Scope.distinct ((t'.lineage n).reverse.map _) = Scope.distinct ((t.lineage n).reverse.map _)
  rw [List.map_reverse, List.map_reverse, hlineage]

theorem follows_update {serial : Nat} {s : Scope} (hs : (t.scope serial).Changed s) :
    Follows t (t.update serial s) := by
  cases hserial : t.scope? serial with
  | none =>
    rw [update_of_none hserial]
    exact .refl t
  | some s₀ =>
    have hle := hs.revision
    refine ⟨Nat.le_add_right _ _, fun heq => ?_⟩
    rw [epoch_update, scope_update (List.getElem?_eq_some_iff.mp hserial).1] at heq
    have htokens := hs.tokens (by omega)
    exact effectiveClearances_congr (scope?_update_map hs.parent)
      fun n d => scope?_update_map (f := fun s => s.clearances.tokens d) (congrFun htokens d) n

theorem Changes.follows {serial : Nat} (h : Changes t serial t') : Follows t t' := by
  induction h with
  | refl => exact .refl t
  | update _ hs ih => exact ih.trans (follows_update hs)

/-- A stack with a later epoch follows, whatever it holds. -/
theorem follows_of_epoch (h : t'.epoch = t.epoch + 1) : Follows t t' :=
  ⟨by omega, fun heq => by omega⟩

theorem follows_enter (t : ScopeStack) (place : Place) : Follows t (t.enter place).1 :=
  follows_of_epoch rfl

theorem follows_exit (t : ScopeStack) (place : Place) (serial : Nat) :
    Follows t (t.exit place serial).1 := by
  unfold exit
  cases t.scope? serial with
  | none => exact .refl t
  | some s =>
    dsimp only
    split
    · exact .refl t
    · exact follows_of_epoch rfl

/-- Equal versions of a stack, at any two moments and places, stand for the same tokens. -/
theorem Follows.view_tokens (h : Follows t t') {p q : Place} (heq : t'.version p = t.version q) :
    (t'.view p).tokens = (t.view q).tokens := by
  obtain ⟨hcurrent, hepoch⟩ := Version.mk.inj heq
  show t'.effectiveClearances _ = t.effectiveClearances _
  rw [h.tokens hepoch, hcurrent]

end RowAccess.ScopeStack
