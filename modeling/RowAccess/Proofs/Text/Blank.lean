import Mathlib.Data.List.DropRight
import Mathlib.Tactic.Common
import RowAccess.Text.Blank

/-!
# Trimmed texts

A text is trimmed where no blank stands at either end of it. Trimming takes blanks off both ends, nothing else,
until the text is trimmed.
-/

namespace RowAccess.Text

/-- Letters and digits are no blanks. -/
theorem isBlank_of_isAlphanum {c : Char} (h : c.isAlphanum = true) : isBlank c = false := by
  have hrange : (65 ≤ c.toNat ∧ c.toNat ≤ 90 ∨ 97 ≤ c.toNat ∧ c.toNat ≤ 122) ∨ 48 ≤ c.toNat ∧ c.toNat ≤ 57 := by
    unfold Char.isAlphanum Char.isAlpha Char.isUpper Char.isLower Char.isDigit at h
    simp only [Bool.or_eq_true, Bool.and_eq_true, decide_eq_true_eq, ge_iff_le, UInt32.le_iff_toNat_le] at h
    exact h
  simp only [isBlank, Bool.or_eq_false_iff, Bool.and_eq_false_iff, decide_eq_false_iff_not, beq_eq_false_iff_ne]
  omega

/-- No blank stands at either end of the text. -/
structure Trimmed (s : List Char) : Prop where
  first : ∀ c, s.head? = some c → isBlank c = false
  last : ∀ c, s.getLast? = some c → isBlank c = false

theorem trimLeft_eq_self_iff {s : List Char} : trimLeft s = s ↔ ∀ c, s.head? = some c → isBlank c = false := by
  cases s with
  | nil => simp [trimLeft]
  | cons c rest => simp [trimLeft, List.dropWhile_eq_self_iff]

theorem trimRight_eq_self_iff {s : List Char} : trimRight s = s ↔ ∀ c, s.getLast? = some c → isBlank c = false := by
  have hreverse : trimRight s = s ↔ trimLeft s.reverse = s.reverse := List.reverse_eq_iff
  rw [hreverse, trimLeft_eq_self_iff, List.head?_reverse]

theorem trimRight_prefix (s : List Char) : trimRight s <+: s := List.rdropWhile_prefix isBlank s

theorem trimmed_trim (s : List Char) : Trimmed (trim s) := by
  constructor
  · intro c hc
    -- What is first after both steps was first after the left one.
    obtain ⟨behind, hbehind⟩ := trimRight_prefix (trimLeft s)
    have hfirst : (trimLeft s).head? = some c := by
      rw [← hbehind, List.head?_append]
      unfold trim at hc
      rw [hc]
      rfl
    have hagain : trimLeft (trimLeft s) = trimLeft s := List.dropWhile_idempotent _ _
    exact trimLeft_eq_self_iff.mp hagain c hfirst
  · have hagain : trimRight (trim s) = trim s := List.rdropWhile_idempotent _ _
    exact trimRight_eq_self_iff.mp hagain

theorem Trimmed.trim_eq {s : List Char} (h : Trimmed s) : trim s = s := by
  unfold trim
  rw [trimLeft_eq_self_iff.mpr h.first, trimRight_eq_self_iff.mpr h.last]

theorem trim_eq_self_iff {s : List Char} : trim s = s ↔ Trimmed s :=
  ⟨fun h => h ▸ trimmed_trim s, Trimmed.trim_eq⟩

/-- The second text is the first one without the blanks at its ends. -/
structure TrimsTo (s t : List Char) : Prop where
  trimmed : Trimmed t
  between : ∃ before after : List Char,
    (∀ c ∈ before, isBlank c = true) ∧ (∀ c ∈ after, isBlank c = true) ∧ s = before ++ t ++ after

theorem trimsTo_trim (s : List Char) : TrimsTo s (trim s) := by
  refine ⟨trimmed_trim s, s.takeWhile isBlank, (trimLeft s).rtakeWhile isBlank, fun c => List.mem_takeWhile_imp,
    fun c => List.mem_rtakeWhile_imp, ?_⟩
  have hright : trim s ++ (trimLeft s).rtakeWhile isBlank = trimLeft s := List.rdropWhile_append_rtakeWhile
  rw [List.append_assoc, hright]
  exact List.takeWhile_append_dropWhile.symm

end RowAccess.Text
