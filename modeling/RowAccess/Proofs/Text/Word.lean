import Mathlib.Data.List.TakeWhile
import Mathlib.Tactic.Common

/-!
# Words at the beginning of texts

A word is a run of one sort of characters. Where something else stands behind it, or nothing, the text tells the word
and what is behind it.
-/

namespace RowAccess.Text

variable {p : Char → Bool} {word word' rest rest' : List Char}

theorem takeWhile_word (hword : ∀ c ∈ word, p c = true) (hrest : ∀ c, rest.head? = some c → p c = false) :
    (word ++ rest).takeWhile p = word := by
  rw [List.takeWhile_append_of_pos hword]
  cases rest with
  | nil => exact List.append_nil word
  | cons c rest =>
    rw [List.takeWhile_cons_of_neg (by rw [hrest c rfl]; exact Bool.false_ne_true)]
    exact List.append_nil word

theorem dropWhile_word (hword : ∀ c ∈ word, p c = true) (hrest : ∀ c, rest.head? = some c → p c = false) :
    (word ++ rest).dropWhile p = rest := by
  have hall : (word ++ rest).takeWhile p ++ (word ++ rest).dropWhile p = word ++ rest := List.takeWhile_append_dropWhile
  rw [takeWhile_word hword hrest] at hall
  exact List.append_cancel_left hall

theorem word_inj (hword : ∀ c ∈ word, p c = true) (hword' : ∀ c ∈ word', p c = true)
    (hrest : ∀ c, rest.head? = some c → p c = false) (hrest' : ∀ c, rest'.head? = some c → p c = false)
    (h : word ++ rest = word' ++ rest') : word = word' ∧ rest = rest' := by
  have hsame : word = word' := by
    rw [← takeWhile_word hword hrest, h, takeWhile_word hword' hrest']
  subst hsame
  exact ⟨rfl, List.append_cancel_left h⟩

end RowAccess.Text
