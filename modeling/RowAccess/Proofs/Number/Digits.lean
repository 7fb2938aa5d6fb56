import Mathlib.Algebra.Ring.Nat
import Mathlib.Data.List.Induction
import Mathlib.Tactic.Common
import RowAccess.Number.Digits
import RowAccess.Proofs.Text.Blank

/-!
# Digits that are read back

What is written in digits is read as the number that was written. `followedBy` is what reading adds to a number for
the digits behind it: it tells how far a reader has come in the middle of a number.
-/

namespace RowAccess.Number

/-! ### Single digits -/

theorem digitChar_spec (d : Nat) : (digitChar d).isDigit = true ∧ digitValue (digitChar d) = d % 10 := by
  have hall : ∀ k : Fin 10, (Char.ofNat (48 + k)).isDigit = true ∧ digitValue (Char.ofNat (48 + k)) = k := by decide
  exact hall ⟨d % 10, by omega⟩

@[simp]
theorem isDigit_digitChar (d : Nat) : (digitChar d).isDigit = true := (digitChar_spec d).1

@[simp]
theorem digitValue_digitChar (d : Nat) : digitValue (digitChar d) = d % 10 := (digitChar_spec d).2

/-- A digit is none of the characters that are no digits. -/
theorem ne_of_isDigit {c d : Char} (hc : c.isDigit = true) (hd : d.isDigit = false) : c ≠ d := by
  rintro rfl
  rw [hc] at hd
  cases hd

theorem isAlphanum_of_isDigit {c : Char} (hc : c.isDigit = true) : c.isAlphanum = true := by
  rw [Char.isAlphanum, hc, Bool.or_true]

theorem isBlank_of_isDigit {c : Char} (hc : c.isDigit = true) : Text.isBlank c = false :=
  Text.isBlank_of_isAlphanum (isAlphanum_of_isDigit hc)

/-! ### Runs of digits -/

/-- The number that digits behind another number make of it. -/
def followedBy (n : Nat) (s : List Char) : Nat := s.foldl (fun n c => n * 10 + digitValue c) n

@[simp]
theorem followedBy_nil (n : Nat) : followedBy n [] = n := List.foldl_nil

@[simp]
theorem followedBy_cons (n : Nat) (c : Char) (s : List Char) :
    followedBy n (c :: s) = followedBy (n * 10 + digitValue c) s := List.foldl_cons

theorem followedBy_append (n : Nat) (s t : List Char) : followedBy n (s ++ t) = followedBy (followedBy n s) t :=
  List.foldl_append

theorem ofDigits_eq (s : List Char) : ofDigits s = followedBy 0 s := rfl

theorem le_followedBy (n : Nat) (s : List Char) : n ≤ followedBy n s := by
  induction s generalizing n with
  | nil => exact Nat.le_refl n
  | cons c s ih =>
    have hrest := ih (n * 10 + digitValue c)
    rw [followedBy_cons]
    omega

theorem ofDigits_concat (s : List Char) (c : Char) : ofDigits (s ++ [c]) = ofDigits s * 10 + digitValue c := by
  simp only [ofDigits_eq, followedBy_append, followedBy_cons, followedBy_nil]

/-- Digits behind a number move it by their places. -/
theorem followedBy_eq (n : Nat) (s : List Char) : followedBy n s = n * 10 ^ s.length + ofDigits s := by
  induction s using List.reverseRecOn with
  | nil => simp [ofDigits_eq]
  | append_singleton s c ih =>
    rw [followedBy_append, ih, ofDigits_concat, List.length_append, List.length_singleton, followedBy_cons,
      followedBy_nil, Nat.add_mul, Nat.mul_assoc, ← Nat.pow_succ, Nat.add_assoc]

/-! ### Numbers in digits -/

theorem isDigit_of_mem_digits {n : Nat} {c : Char} (h : c ∈ digits n) : c.isDigit = true := by
  fun_induction digits n with
  | case1 n hn =>
    rw [List.mem_singleton.mp h]
    exact isDigit_digitChar n
  | case2 n hn ih =>
    rcases List.mem_append.mp h with hfront | hlast
    · exact ih hfront
    · rw [List.mem_singleton.mp hlast]
      exact isDigit_digitChar _

theorem digits_ne_nil (n : Nat) : digits n ≠ [] := by
  fun_induction digits n with
  | case1 n hn => exact List.cons_ne_nil _ _
  | case2 n hn ih => exact List.append_ne_nil_of_right_ne_nil _ (List.cons_ne_nil _ _)

@[simp]
theorem ofDigits_digits (n : Nat) : ofDigits (digits n) = n := by
  fun_induction digits n with
  | case1 n hn => simp [ofDigits_eq, Nat.mod_eq_of_lt hn]
  | case2 n hn ih =>
    rw [ofDigits_concat, ih, digitValue_digitChar]
    omega

theorem isDigit_of_mem_padded {width n : Nat} {c : Char} (h : c ∈ padded width n) : c.isDigit = true := by
  induction width generalizing n with
  | zero => cases h
  | succ width ih =>
    rcases List.mem_append.mp h with hfront | hlast
    · exact ih hfront
    · rw [List.mem_singleton.mp hlast]
      exact isDigit_digitChar _

@[simp]
theorem length_padded (width n : Nat) : (padded width n).length = width := by
  induction width generalizing n with
  | zero => rfl
  | succ width ih => rw [padded, List.length_append, ih, List.length_singleton]

@[simp]
theorem ofDigits_padded (width n : Nat) : ofDigits (padded width n) = n % 10 ^ width := by
  induction width generalizing n with
  | zero => simp [padded, ofDigits_eq, Nat.mod_one]
  | succ width ih =>
    rw [padded, ofDigits_concat, ih, digitValue_digitChar, Nat.pow_succ, Nat.mul_comm (10 ^ width) 10, Nat.mod_mul]
    omega

end RowAccess.Number
