import Mathlib.Data.List.Basic
import Mathlib.Tactic.Common
import RowAccess.Proofs.Number.Hexadecimal
import RowAccess.Proofs.Text.Word
import RowAccess.Text.Quoted

/-!
# Quoted texts that are read back

`unescape?` takes one character off a quoted text. It finds the character that was written there, however the text goes
on, so a quoted text at the beginning of another text tells both itself and where it ends.
-/

namespace RowAccess.Text

open RowAccess.Number (isHexDigit lowerHex ofHexDigits isHexDigit_of_mem_lowerHex ofHexDigits_lowerHex)

/-- The character that a letter behind a backslash stands for. -/
def escaped (m : Char) : Char :=
  if m = '0' then '\x00' else if m = 't' then '\t' else if m = 'r' then '\r' else if m = 'n' then '\n' else m

/-- The character that is written as a code between braces, and the text after it. -/
def uncode (s : List Char) : Char × List Char :=
  (Char.ofNat (ofHexDigits ((s.drop 1).takeWhile isHexDigit)), ((s.drop 1).dropWhile isHexDigit).drop 1)

/-- The first character that stands between quotes, and the text after it. -/
def unescape? : List Char → Option (Char × List Char)
  | [] => none
  | [c] => some (c, [])
  | c :: m :: rest =>
      if c = '\\' then some (if m = 'u' then uncode rest else (escaped m, rest)) else some (c, m :: rest)

theorem uncode_lowerHex (c : Char) (rest : List Char) :
    uncode ('\x7b' :: lowerHex c.toNat ++ '\x7d' :: rest) = (c, rest) := by
  have hbrace : ∀ d, ('\x7d' :: rest).head? = some d → isHexDigit d = false := by
    rintro d ⟨⟩
    decide
  have htaken : (lowerHex c.toNat ++ '\x7d' :: rest).takeWhile isHexDigit = lowerHex c.toNat :=
    takeWhile_word (fun d => isHexDigit_of_mem_lowerHex) hbrace
  have hdropped : (lowerHex c.toNat ++ '\x7d' :: rest).dropWhile isHexDigit = '\x7d' :: rest :=
    dropWhile_word (fun d => isHexDigit_of_mem_lowerHex) hbrace
  rw [uncode, List.cons_append, List.drop_one, List.tail_cons, htaken, hdropped, ofHexDigits_lowerHex, Char.ofNat_toNat]
  rfl

/-- The character that was written is found, however the text goes on. -/
theorem unescape?_escapeChar (c : Char) (rest : List Char) : unescape? (escapeChar c ++ rest) = some (c, rest) := by
  unfold escapeChar
  split_ifs with hnul htab hreturn hline hquote hslash hhidden
  · rw [hnul]; rfl
  · rw [htab]; rfl
  · rw [hreturn]; rfl
  · rw [hline]; rfl
  · rw [hquote]; rfl
  · rw [hslash]; rfl
  · have hcode := uncode_lowerHex c rest
    simp only [List.cons_append, List.append_assoc, List.nil_append] at hcode ⊢
    rw [unescape?, if_pos rfl, if_pos rfl, hcode]
  · cases rest with
    | nil => rfl
    | cons d rest => exact if_neg hslash

theorem escapeChar_inj {c c' : Char} {rest rest' : List Char} (h : escapeChar c ++ rest = escapeChar c' ++ rest') :
    c = c' ∧ rest = rest' := by
  have hread := congrArg unescape? h
  rw [unescape?_escapeChar, unescape?_escapeChar] at hread
  exact Prod.mk.inj (Option.some.inj hread)

/-- No character of a text is written as the quote that ends the text. -/
theorem escapeChar_ne_quote (c : Char) (rest rest' : List Char) : escapeChar c ++ rest ≠ '"' :: rest' := by
  have hmark : ∀ more, '\\' :: more ≠ '"' :: rest' := fun more h => absurd (List.cons.inj h).1 (by decide)
  unfold escapeChar
  split_ifs with hnul htab hreturn hline hquote hslash hhidden
  · exact hmark _
  · exact hmark _
  · exact hmark _
  · exact hmark _
  · exact hmark _
  · exact hmark _
  · exact hmark _
  · exact fun h => hquote (List.cons.inj h).1

theorem flatMap_escapeChar_inj : ∀ {s s' rest rest' : List Char},
    s.flatMap escapeChar ++ '"' :: rest = s'.flatMap escapeChar ++ '"' :: rest' → s = s' ∧ rest = rest'
  | [], [], rest, rest', h => ⟨rfl, (List.cons.inj h).2⟩
  | [], c :: s', rest, rest', h => by
      rw [List.flatMap_cons, List.append_assoc] at h
      exact absurd h.symm (escapeChar_ne_quote c _ _)
  | c :: s, [], rest, rest', h => by
      rw [List.flatMap_cons, List.append_assoc] at h
      exact absurd h (escapeChar_ne_quote c _ _)
  | c :: s, c' :: s', rest, rest', h => by
      rw [List.flatMap_cons, List.flatMap_cons, List.append_assoc, List.append_assoc] at h
      obtain ⟨hc, hmore⟩ := escapeChar_inj h
      obtain ⟨hs, hrest⟩ := flatMap_escapeChar_inj hmore
      exact ⟨congrArg₂ _ hc hs, hrest⟩

/-- A quoted text tells what it is the text of, and where it ends. -/
theorem quoted_inj {s s' rest rest' : List Char} (h : quoted s ++ rest = quoted s' ++ rest') :
    s = s' ∧ rest = rest' := by
  unfold quoted at h
  rw [List.append_assoc, List.append_assoc] at h
  exact flatMap_escapeChar_inj (List.cons.inj h).2

end RowAccess.Text
