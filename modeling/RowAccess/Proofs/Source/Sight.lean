import Mathlib.Data.List.Basic
import Mathlib.Tactic.Common
import RowAccess.Proofs.Sight
import RowAccess.Source

/-!
# The tables that one line uses

Tables that a line shares with others hold the same as those that it has for itself, as far as it uses them:
when it adds and changes them itself, and when others add and change theirs.
-/

namespace RowAccess

namespace Sight

/-- Tables that the line shares, and tables that it has for itself, with the same in those that it uses. -/
structure SameTables (w : Sight) (xs ys : List Source) : Prop where
  counts : w.Counts xs.length ys.length
  table : ∀ {n}, w.Sees n → ∃ s, xs[w.rename n]? = some s ∧ ys[n]? = some s

variable {w : Sight} {xs ys : List Source} {n : Nat}

/-- The line adds a table. -/
theorem SameTables.add (h : w.SameTables xs ys) (s : Source) :
    (w.make xs.length).SameTables (xs ++ [s]) (ys ++ [s]) := by
  constructor
  · rw [List.length_append, List.length_append]
    exact h.counts.make
  · intro n hn
    rcases sees_make.mp hn with hn | rfl
    · obtain ⟨s', hx, hy⟩ := h.table hn
      rw [h.counts.rename_make hn]
      refine ⟨s', ?_, ?_⟩
      · rw [List.getElem?_append_left (List.getElem?_eq_some_iff.mp hx).1, hx]
      · rw [List.getElem?_append_left (List.getElem?_eq_some_iff.mp hy).1, hy]
    · rw [rename_make_new, ← h.counts.length, List.getElem?_concat_length, List.getElem?_concat_length]
      exact ⟨s, rfl, rfl⟩

/-- The line changes a table that it uses. -/
theorem SameTables.change (h : w.SameTables xs ys) (hn : w.Sees n) (f : Source → Source) :
    w.SameTables (xs.modify (w.rename n) f) (ys.modify n f) := by
  constructor
  · rw [List.length_modify, List.length_modify]
    exact h.counts
  · intro m hm
    obtain ⟨s, hx, hy⟩ := h.table hm
    rw [List.getElem?_modify, List.getElem?_modify, hx, hy]
    by_cases hmn : n = m
    · subst hmn
      exact ⟨f s, congrArg some (if_pos rfl), congrArg some (if_pos rfl)⟩
    · have hne : w.rename n ≠ w.rename m := fun heq => hmn (h.counts.rename_inj hn hm heq)
      exact ⟨s, congrArg some (if_neg hne), congrArg some (if_neg hmn)⟩

/-- Another line adds a table. -/
theorem SameTables.otherAdds (h : w.SameTables xs ys) (s : Source) :
    w.SameTables (xs ++ [s]) ys := by
  constructor
  · rw [List.length_append]
    exact h.counts.mono (Nat.le_add_right _ _)
  · intro n hn
    obtain ⟨s', hx, hy⟩ := h.table hn
    refine ⟨s', ?_, hy⟩
    rw [List.getElem?_append_left (List.getElem?_eq_some_iff.mp hx).1, hx]

/-- Another line changes a table that the line does not use. -/
theorem SameTables.otherChanges (h : w.SameTables xs ys) (hn : n ∉ w.seen ++ w.own)
    (f : Source → Source) : w.SameTables (xs.modify n f) ys := by
  constructor
  · rw [List.length_modify]
    exact h.counts
  · intro m hm
    obtain ⟨s, hx, hy⟩ := h.table hm
    refine ⟨s, ?_, hy⟩
    have hne : n ≠ w.rename m := fun heq => hn (heq ▸ h.counts.rename_mem hm)
    rw [List.getElem?_modify, hx]
    exact congrArg some (if_neg hne)

end Sight

end RowAccess
