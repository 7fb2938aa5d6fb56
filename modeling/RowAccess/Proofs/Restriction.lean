import Mathlib.Data.List.Basic
import Mathlib.Tactic.Common
import RowAccess.Restriction

/-!
# Restrictions and rows

A restriction is its content as far as rows are concerned, and the rows that are taken out one after
another are those that it admits.
-/

namespace RowAccess

namespace Restriction

theorem isUnrestricted_iff {x : Restriction} : x.isUnrestricted = true ↔ x.content = none := by
  cases x <;> simp [isUnrestricted, content]

theorem admits_eq (x : Restriction) (r : Row) : x.admits r = x.content.all (·.admits r) := by
  cases x <;> rfl

theorem predicate_admits (x : Restriction) (r : Row) : x.predicate.admits r = x.admits r := by
  cases x <;> rfl

end Restriction

/-- The members of a list for which something holds are the first of them and those behind it. -/
theorem filter_eq_of_dropWhile {α : Type} {p : α → Bool} {x : α} {rest : List α} :
    ∀ {l : List α}, (l.dropWhile fun x => !p x) = x :: rest → l.filter p = x :: rest.filter p
  | y :: l, h => by
      rw [List.dropWhile_cons] at h
      cases hy : p y with
      | true =>
        rw [hy] at h
        obtain ⟨rfl, rfl⟩ := List.cons_eq_cons.mp h
        rw [List.filter_cons_of_pos hy]
      | false =>
        rw [hy] at h
        rw [List.filter_cons_of_neg (by rw [hy]; decide)]
        exact filter_eq_of_dropWhile h

theorem filter_eq_nil_of_dropWhile {α : Type} {p : α → Bool} :
    ∀ {l : List α}, (l.dropWhile fun x => !p x) = [] → l.filter p = []
  | [], _ => rfl
  | y :: l, h => by
      rw [List.dropWhile_cons] at h
      cases hy : p y with
      | true =>
        rw [hy] at h
        cases h
      | false =>
        rw [hy] at h
        rw [List.filter_cons_of_neg (by rw [hy]; decide)]
        exact filter_eq_nil_of_dropWhile h

namespace Admitted

variable {α : Type} {row : α → Row} {s rest : Admitted α} {r : α}

/-- The rows that a predicate admits of those that are still to be looked at. -/
def remaining (row : α → Row) (s : Admitted α) : List α :=
  s.pending.filter fun r => s.predicate.admits (row r)

theorem remaining_of_none (h : s.next? row = none) : s.remaining row = [] := by
  unfold next? at h
  split at h
  next hdrop => exact filter_eq_nil_of_dropWhile hdrop
  next => cases h

theorem remaining_of_some (h : s.next? row = some (r, rest)) :
    s.remaining row = r :: rest.remaining row := by
  unfold next? at h
  split at h
  next => cases h
  next hdrop =>
    cases h
    exact filter_eq_of_dropWhile hdrop

theorem toList_of_none (h : s.next? row = none) : s.toList row = [] := by
  unfold toList
  split
  next => rfl
  next heq => cases h.symm.trans heq

theorem toList_of_some (h : s.next? row = some (r, rest)) :
    s.toList row = r :: rest.toList row := by
  conv => lhs; unfold toList
  split
  next heq => cases h.symm.trans heq
  next heq =>
    cases h.symm.trans heq
    rfl

/-- The rows that are taken out are those that the predicate admits, in order. -/
theorem toList_eq_remaining (s : Admitted α) : s.toList row = s.remaining row := by
  induction hn : s.pending.length using Nat.strongRecOn generalizing s with
  | ind n ih =>
    cases hnext : s.next? row with
    | none => rw [toList_of_none hnext, remaining_of_none hnext]
    | some next =>
      have hlen := next?_length hnext
      rw [toList_of_some hnext, remaining_of_some hnext, ih _ (hn ▸ hlen) next.2 rfl]

end Admitted

end RowAccess
