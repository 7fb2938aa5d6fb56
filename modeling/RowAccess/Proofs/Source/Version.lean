import Mathlib.Data.List.Basic
import Mathlib.Tactic.Common
import RowAccess.Access.Run
import RowAccess.Proofs.Source.TokenTable

/-!
# Versions of tables

A static table counts its changes, and the count is its version. A table that follows another one in a run
is of the same kind; a static one has a later count, or holds the same tokens.
-/

namespace RowAccess

namespace Source

/-- A table later in a run. -/
inductive Follows : Source → Source → Prop
  | static {g g' : Nat} {t t' : TokenTable} (generation : g ≤ g')
      (tokens : g' = g → t'.tokens = t.tokens) : Follows (static g t) (static g' t')
  | function (t t' : TokenTable) : Follows (function t) (function t')
  | host (u : Uuid) (v v' : Option Version) (t t' : TokenTable) :
      Follows (host u v t) (host u v' t')

theorem Follows.refl : ∀ s : Source, Follows s s
  | .static _ _ => .static (Nat.le_refl _) fun _ => rfl
  | .function t => .function t t
  | .host u v t => .host u v v t t

theorem Follows.trans {s s' s'' : Source} (h : Follows s s') (h' : Follows s' s'') :
    Follows s s'' := by
  cases h with
  | static hg ht =>
    cases h' with
    | static hg' ht' =>
      refine .static (Nat.le_trans hg hg') fun heq => ?_
      have hmid := Nat.le_antisymm (heq ▸ hg') hg
      rw [ht' (heq.trans hmid.symm), ht hmid]
  | function => cases h'; exact .function _ _
  | host => cases h'; exact .host _ _ _ _ _

theorem follows_add (s : Source) (dimension token : String) : Follows s (s.add dimension token) := by
  cases s with
  | static g t =>
    unfold add
    dsimp only
    split
    next hheld =>
      refine .static (Nat.le_refl g) fun _ => TokenTable.tokens_add_of_held fun token' htoken => ?_
      rw [List.mem_singleton.mp htoken]
      exact List.contains_iff_mem.mp hheld
    next => exact .static (Nat.le_succ g) fun heq => absurd heq (Nat.succ_ne_self g)
  | function t => exact .refl _
  | host u v t => exact .refl _

theorem follows_clear (s : Source) (dimension : String) : Follows s (s.clear dimension) := by
  cases s with
  | static g t =>
    unfold clear
    dsimp only
    split
    · exact .static (Nat.le_succ g) fun heq => absurd heq (Nat.succ_ne_self g)
    · exact .refl _
  | function t => exact .refl _
  | host u v t => exact .refl _

theorem follows_change (s : Source) (change : SourceChange) : Follows s (change.apply s) := by
  cases change with
  | add dimension token => exact follows_add s dimension token
  | clear dimension => exact follows_clear s dimension
  | set dimension tokens =>
    cases s with
    | static g t => exact .refl _
    | function t => exact .function _ _
    | host u v t => exact .host _ _ _ _ _
  | setVersion version =>
    cases s with
    | static g t => exact .refl _
    | function t => exact .refl _
    | host u v t => exact .host _ _ _ _ _

end Source

namespace SourceView

/-- Two looks at sources of which a version does not stand for two tables. -/
def Agrees (x y : SourceView) : Prop :=
  ∀ v, x.id = y.id → x.version = some v → y.version = some v → x.tokens = y.tokens

theorem Agrees.symm {x y : SourceView} (h : Agrees x y) : Agrees y x :=
  fun v hid hy hx => (h v hid.symm hx hy).symm

theorem Agrees.of_none {x y : SourceView} (h : y.version = none) : Agrees x y := by
  intro v _ _ hv
  rw [h] at hv
  cases hv

end SourceView

/-- Looks at one table, other than a table of the host, agree. -/
theorem Source.Follows.agrees {s s' : Source} (h : Follows s s') (n : Nat)
    (hhost : ∀ u, s.id n ≠ .host u) : (s.view n).Agrees (s'.view n) := by
  cases h with
  | static hg ht =>
    intro v _ hv hv'
    have heq := Option.some.inj (hv'.trans hv.symm)
    exact (ht (Version.mk.inj heq).2).symm
  | function => exact .of_none rfl
  | host u => exact absurd rfl (hhost u)

end RowAccess
