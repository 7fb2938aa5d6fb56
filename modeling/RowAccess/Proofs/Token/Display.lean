import Mathlib.Data.List.Basic
import Mathlib.Tactic.Common
import RowAccess.Proofs.Text.Blank
import RowAccess.Token

/-!
# Tokens as they are written

A text is read as the one token that is written like it, once it is trimmed. Some tokens are written like another
one and are never read: an allowance of a text that is a denial or stands for all values, and a denial of the text
that stands for all values. All others are read back from what is written for them, if that is trimmed.
-/

namespace RowAccess.Token

open RowAccess.Text (Trimmed isBlank trim)

/-- The token is not written like another one that is read instead. -/
def Unmistakable : Token → Prop
  | allow v => v.toList.head? ≠ some negationMark ∧ v.toList ≠ wildcard
  | allowAll => True
  | deny v => v.toList ≠ wildcard
  | denyAll => True

/-- The reading of a text that is trimmed. -/
theorem parse_of_trim {raw : String} {text : List Char} (h : trim raw.toList = text) :
    (parse raw).display.toList = text ∧ (parse raw).Unmistakable := by
  unfold parse
  rw [h]
  dsimp only
  split
  next denied =>
    split
    next hall =>
      rw [hall]
      exact ⟨String.toList_ofList, trivial⟩
    next hone =>
      refine ⟨?_, ?_⟩
      · rw [display, String.toList_ofList, String.toList_ofList, negationMark]
      · rwa [Unmistakable, String.toList_ofList]
  next hmark =>
    have hfirst : text.head? ≠ some negationMark := by
      intro hhead
      obtain ⟨denied, hdenied⟩ := List.head?_eq_some_iff.mp hhead
      exact hmark denied hdenied
    split
    next hall =>
      rw [hall]
      exact ⟨String.toList_ofList, trivial⟩
    next hone =>
      refine ⟨String.toList_ofList, ?_⟩
      rw [Unmistakable, String.toList_ofList]
      exact ⟨hfirst, hone⟩

/-- A text that is what is written for a token, once it is trimmed. -/
theorem parse_of_display {raw : String} {t : Token} (h : trim raw.toList = t.display.toList) (ht : t.Unmistakable) :
    parse raw = t := by
  unfold parse
  rw [h]
  cases t with
  | allow v =>
    obtain ⟨hmark, hall⟩ := ht
    dsimp only [display]
    split
    next denied hv => exact absurd (congrArg List.head? hv) hmark
    next => rw [if_neg hall, String.ofList_toList]
  | allowAll => simp [display, wildcard]
  | deny v =>
    have hall : v.toList ≠ wildcard := ht
    simp only [display, negationMark, String.toList_ofList, if_neg hall, String.ofList_toList]
  | denyAll => simp [display, wildcard, negationMark]

/-- A text is read as the one token that is written like it. -/
theorem parse_eq_iff {raw : String} {t : Token} :
    parse raw = t ↔ trim raw.toList = t.display.toList ∧ t.Unmistakable := by
  constructor
  · rintro rfl
    obtain ⟨htext, hread⟩ := parse_of_trim (rfl : trim raw.toList = trim raw.toList)
    exact ⟨htext.symm, hread⟩
  · rintro ⟨hwritten, ht⟩
    exact parse_of_display hwritten ht

/-- An exclamation mark is no blank, so only what stands behind it can end in one. -/
theorem trimmed_cons_mark {s : List Char} :
    Trimmed (negationMark :: s) ↔ ∀ c, s.getLast? = some c → isBlank c = false := by
  have hmark : isBlank negationMark = false := by decide
  constructor
  · intro h c hc
    refine h.last c ?_
    rw [List.getLast?_cons, hc]
    rfl
  · intro h
    constructor
    · rintro c ⟨⟩
      exact hmark
    · intro c hc
      rw [List.getLast?_cons] at hc
      obtain rfl := Option.some.inj hc
      cases hs : s.getLast? with
      | none => exact hmark
      | some d => exact h d hs

theorem trimmed_wildcard : Trimmed wildcard := by
  have hasterisk : ∀ c, some '*' = some c → isBlank c = false := by
    rintro c ⟨⟩
    decide
  exact ⟨hasterisk, hasterisk⟩

theorem ne_wildcard {v : String} : v.toList ≠ wildcard ↔ v ≠ "*" := by
  rw [ne_eq, ne_eq, ← String.toList_inj]
  rfl

/-- The tokens that are read back from what is written for them. -/
def Stable : Token → Prop
  | allow v => Trimmed v.toList ∧ v ≠ "*" ∧ v.toList.head? ≠ some negationMark
  | allowAll => True
  | deny v => (∀ c, v.toList.getLast? = some c → isBlank c = false) ∧ v ≠ "*"
  | denyAll => True

/-- A token that is read is written as its text without the blanks at either end. What is written for a token is
read as this token exactly if it stands for all values, allows a trimmed text which neither stands for all values nor
begins like a denial, or denies a text which does not end in a blank and does not stand for all values. -/
theorem display_parse_and_parse_display :
    (∀ raw : String, (parse raw).display = String.ofList (trim raw.toList) ∧
      Text.TrimsTo raw.toList (parse raw).display.toList) ∧
    ∀ t : Token, parse t.display = t ↔ t.Stable := by
  constructor
  · intro raw
    obtain ⟨hwritten, -⟩ := parse_eq_iff.mp (rfl : parse raw = parse raw)
    have hcore : Text.TrimsTo raw.toList (trim raw.toList) := Text.trimsTo_trim raw.toList
    rw [hwritten] at hcore ⊢
    exact ⟨String.ofList_toList.symm, hcore⟩
  · intro t
    rw [parse_eq_iff, Text.trim_eq_self_iff]
    cases t with
    | allow v => rw [display, Unmistakable, Stable, ne_wildcard, and_comm (b := v ≠ "*")]
    | allowAll =>
      rw [display, String.toList_ofList]
      exact and_iff_right trimmed_wildcard
    | deny v => rw [display, Unmistakable, Stable, ne_wildcard, String.toList_ofList, trimmed_cons_mark]
    | denyAll =>
      rw [display, String.toList_ofList, trimmed_cons_mark]
      exact and_iff_right trimmed_wildcard.last

end RowAccess.Token
