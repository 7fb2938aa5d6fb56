import Mathlib.Data.List.Basic
import Mathlib.Tactic.Common
import RowAccess.Number.Hexadecimal

/-!
# Hexadecimal digits that are read back

A number that is written in hexadecimal digits is read as the same number.
-/

namespace RowAccess.Number

theorem lowerHexDigit_spec {n : Nat} (h : n < 16) :
    isHexDigit (lowerHexDigit n) = true ∧ hexDigitValue (lowerHexDigit n) = n := by
  have hall : ∀ k : Fin 16, isHexDigit (lowerHexDigit k) = true ∧ hexDigitValue (lowerHexDigit k) = k := by decide
  exact hall ⟨n, h⟩

theorem isHexDigit_of_mem_lowerHex {n : Nat} {c : Char} (h : c ∈ lowerHex n) : isHexDigit c = true := by
  fun_induction lowerHex n with
  | case1 n hn =>
    rw [List.mem_singleton.mp h]
    exact (lowerHexDigit_spec hn).1
  | case2 n hn ih =>
    rcases List.mem_append.mp h with hfront | hlast
    · exact ih hfront
    · rw [List.mem_singleton.mp hlast]
      exact (lowerHexDigit_spec (Nat.mod_lt n (by decide))).1

theorem ofHexDigits_lowerHex (n : Nat) : ofHexDigits (lowerHex n) = n := by
  fun_induction lowerHex n with
  | case1 n hn => simp [ofHexDigits, (lowerHexDigit_spec hn).2]
  | case2 n hn ih =>
    have hlast := (lowerHexDigit_spec (Nat.mod_lt n (by decide : 16 > 0))).2
    unfold ofHexDigits at ih ⊢
    rw [List.foldl_append, ih, List.foldl_cons, List.foldl_nil, hlast]
    omega

end RowAccess.Number
