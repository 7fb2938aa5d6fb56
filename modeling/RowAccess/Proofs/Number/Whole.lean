import Mathlib.Data.List.Basic
import Mathlib.Tactic.Common
import RowAccess.Number.Whole
import RowAccess.Proofs.Number.Digits

/-!
# Whole numbers that are read back

The digits of a number are read one by one, and what was read so far is never farther from zero than the number
itself: a number that fits a width is therefore read back from what is written for it.
-/

namespace RowAccess.Number.Whole

variable {w : Width} {negative : Bool}

/-- The number at a distance from zero, to one side of it. -/
def onSide (negative : Bool) (m : Nat) : Int := if negative then -(m : Int) else m

theorem eq_of_value {a b : Whole w} (h : a.value = b.value) : a = b := by
  cases a
  cases b
  cases h
  rfl

theorem ofInt?_eq_some {n : Whole w} {k : Int} (h : n.value = k) : ofInt? w k = some n := by
  subst h
  rw [ofInt?, dif_pos ⟨n.least_le, n.le_greatest⟩]

theorem least_le_zero (w : Width) : w.least ≤ 0 := by cases w <;> decide

theorem zero_le_greatest (w : Width) : 0 ≤ w.greatest := by cases w <;> decide

/-- Nearer to zero than a number of the width is within the width. -/
theorem exists_nearer {n : Whole w} {m k : Nat} (hn : n.value = onSide negative k) (hle : m ≤ k) :
    ∃ a : Whole w, a.value = onSide negative m := by
  have hleast := n.least_le
  have hgreatest := n.le_greatest
  have hzero := least_le_zero w
  have hzero' := zero_le_greatest w
  refine ⟨⟨onSide negative m, ?_, ?_⟩, rfl⟩
  · cases negative <;> simp only [onSide] at hn ⊢ <;> grind
  · cases negative <;> simp only [onSide] at hn ⊢ <;> grind

/-- Digits behind a number are read as the number that they make of it. -/
theorem readDigits_eq {n : Whole w} : ∀ {ds : List Char} {acc : Whole w} {m : Nat},
    (∀ c ∈ ds, c.isDigit = true) → acc.value = onSide negative m → n.value = onSide negative (followedBy m ds) →
      readDigits w negative acc ds = .ok n
  | [], acc, m, _, hacc, hn => by
      rw [readDigits, eq_of_value (hacc.trans hn.symm)]
  | c :: ds, acc, m, hds, hacc, hn => by
      obtain ⟨hc, hrest⟩ := List.forall_mem_cons.mp hds
      have hstep : acc.value * 10 + (if negative then -(digitValue c : Int) else digitValue c) =
          onSide negative (m * 10 + digitValue c) := by
        rw [hacc]
        cases negative <;> simp only [onSide] <;> grind
      obtain ⟨next, hnext⟩ := exists_nearer hn (le_followedBy (m * 10 + digitValue c) ds)
      simp only [readDigits, if_pos hc, hstep, ofInt?_eq_some hnext]
      exact readDigits_eq hrest hnext hn

/-- A number is read back from what is written for it. -/
theorem read_text (n : Whole w) : read? w n.text = .ok n := by
  have hdigits : ∀ c ∈ digits n.value.natAbs, c.isDigit = true := fun c => isDigit_of_mem_digits
  have hread : ∀ negative : Bool, n.value = onSide negative n.value.natAbs →
      readDigits w negative (zero w) (digits n.value.natAbs) = .ok n := by
    intro negative hn
    refine readDigits_eq (m := 0) hdigits (by cases negative <;> rfl) ?_
    rw [← ofDigits_eq, ofDigits_digits]
    exact hn
  unfold text Number.signed
  split
  next hneg =>
    have hsigned : w.isSigned = true := by
      have hleast := n.least_le
      cases w with
      | u8 => exact absurd (Int.lt_of_le_of_lt hleast hneg) (by decide)
      | _ => rfl
    rw [read?, if_neg fun h => absurd h.1 (by decide), if_pos ⟨rfl, digits_ne_nil _, hsigned⟩]
    exact hread true (by rw [onSide, if_pos rfl]; omega)
  next hpos =>
    have hplain := hread false (by rw [onSide, if_neg Bool.false_ne_true]; omega)
    cases hcs : digits n.value.natAbs with
    | nil => exact absurd hcs (digits_ne_nil _)
    | cons c rest =>
      rw [hcs] at hdigits hplain
      have hc : c.isDigit = true := hdigits c List.mem_cons_self
      have hplus : c ≠ '+' := ne_of_isDigit hc (by decide)
      have hminus : c ≠ '-' := ne_of_isDigit hc (by decide)
      rw [read?, if_neg fun h => hplus h.1, if_neg fun h => hminus h.1]
      exact hplain

end RowAccess.Number.Whole
