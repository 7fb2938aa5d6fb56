import Mathlib.Data.List.Basic
import Mathlib.Tactic.Common
import RowAccess.Proofs.Text.Blank
import RowAccess.Proofs.Token

/-!
# Entries of a list of tokens

A list of tokens is read as what stands between its commas, trimmed, where anything is left of it. So what is read are
entries: texts with something in them, without a comma and without a blank at either end. An entry alone is read as
itself, and a comma divides what stands before it from what stands behind; entries with commas between them are
therefore read back, whatever they are.
-/

namespace RowAccess

namespace Text

/-- A text without separators is one piece. -/
theorem splitAtEvery_of_none {p : Char → Bool} : ∀ {s : List Char}, (∀ c ∈ s, p c = false) → splitAtEvery p s = [s]
  | [], _ => rfl
  | c :: rest, h => by
      have hc : p c = false := h c List.mem_cons_self
      have hrest : splitAtEvery p rest = [rest] :=
        splitAtEvery_of_none fun d hd => h d (List.mem_cons_of_mem _ hd)
      simp only [splitAtEvery, hrest, hc, Bool.false_eq_true, if_false]

/-- No piece of a text has a separator in it. -/
theorem not_separator_of_mem {p : Char → Bool} :
    ∀ {s piece : List Char}, piece ∈ splitAtEvery p s → ∀ c ∈ piece, p c = false
  | [], piece, h => by
      rw [List.mem_singleton.mp h]
      exact fun c hc => (List.not_mem_nil hc).elim
  | d :: rest, piece, h => by
      unfold splitAtEvery at h
      split at h
      next hnil => exact absurd hnil (splitAtEvery_ne_nil p rest)
      next first pieces hpieces =>
        have hlater : ∀ {x}, x ∈ first :: pieces → ∀ c ∈ x, p c = false :=
          fun hx => not_separator_of_mem (hpieces ▸ hx)
        split at h
        next hd =>
          rcases List.mem_cons.mp h with rfl | h
          · exact fun c hc => (List.not_mem_nil hc).elim
          · exact hlater h
        next hd =>
          rcases List.mem_cons.mp h with rfl | h
          · intro c hc
            rcases List.mem_cons.mp hc with rfl | hc
            · exact Bool.eq_false_iff.mpr hd
            · exact hlater List.mem_cons_self c hc
          · exact hlater (List.mem_cons_of_mem _ h)

/-- Trimming adds nothing. -/
theorem mem_of_mem_trim {s : List Char} {c : Char} (h : c ∈ trim s) : c ∈ s := by
  obtain ⟨before, after, -, -, heq⟩ := (trimsTo_trim s).between
  rw [heq]
  exact List.mem_append_left _ (List.mem_append_right _ h)

end Text

open Text (Trimmed trim)

/-- A text that can be an entry of a list of tokens. -/
structure IsEntry (token : String) : Prop where
  nonempty : token ≠ ""
  undivided : ',' ∉ token.toList
  trimmed : Trimmed token.toList

variable {list token : String}

/-- What a list is read as are entries. -/
theorem isEntry_of_mem (h : token ∈ splitTokenList list) : IsEntry token := by
  unfold splitTokenList at h
  obtain ⟨text, htext, rfl⟩ := List.mem_map.mp h
  obtain ⟨hkept, hfilled⟩ := List.mem_filter.mp htext
  obtain ⟨piece, hpiece, rfl⟩ := List.mem_map.mp hkept
  constructor
  · intro hempty
    have hnil : trim piece = [] := by
      rw [← String.toList_ofList (l := trim piece), hempty]
      rfl
    rw [hnil] at hfilled
    cases hfilled
  · rw [String.toList_ofList]
    intro hcomma
    cases Text.not_separator_of_mem hpiece ',' (Text.mem_of_mem_trim hcomma)
  · rw [String.toList_ofList]
    exact Text.trimmed_trim piece

/-- An entry alone is read as itself. -/
theorem IsEntry.splitTokenList_eq (h : IsEntry token) : splitTokenList token = [token] := by
  have hundivided : ∀ c ∈ token.toList, (c == ',') = false := by
    intro c hc
    exact beq_false_of_ne fun heq => h.undivided (heq ▸ hc)
  have hfilled : token.toList.isEmpty = false := by
    refine List.isEmpty_eq_false_iff.mpr fun hnil => h.nonempty ?_
    rw [← String.ofList_toList (s := token), hnil]
  unfold splitTokenList
  rw [Text.splitAtEvery_of_none hundivided, List.map_singleton, h.trimmed.trim_eq,
    List.filter_cons_of_pos (by rw [hfilled]; rfl), List.filter_nil, List.map_singleton, String.ofList_toList]

/-- Entries with commas between them are read back. -/
theorem splitTokenList_intercalate : ∀ {tokens : List String}, (∀ t ∈ tokens, IsEntry t) →
    splitTokenList (",".intercalate tokens) = tokens
  | [], _ => rfl
  | [t], h => by
      rw [String.intercalate_singleton]
      exact (h t List.mem_cons_self).splitTokenList_eq
  | t :: u :: rest, h => by
      have hrest := splitTokenList_intercalate fun v hv => h v (List.mem_cons_of_mem t hv)
      rw [String.intercalate_cons_cons, splitTokenList_append, (h t List.mem_cons_self).splitTokenList_eq, hrest]
      rfl

/-- A comma between two texts divides what they are read as; whatever is read is an entry: it is not empty, holds no
comma, and has no blank at either end; and any entries with commas between them are read as just these entries. -/
theorem split_and_join :
    (∀ a b : String, splitTokenList (a ++ "," ++ b) = splitTokenList a ++ splitTokenList b) ∧
      (∀ list : String, ∀ token ∈ splitTokenList list, IsEntry token) ∧
      ∀ tokens : List String, (∀ t ∈ tokens, IsEntry t) → splitTokenList (",".intercalate tokens) = tokens :=
  ⟨splitTokenList_append, fun _ _ h => isEntry_of_mem h, fun _ h => splitTokenList_intercalate h⟩

/-- Blanks that are no ASCII characters, nothing between two commas, and a blank within an entry. -/
theorem split_and_join_regions :
    splitTokenList ("\u3000EU,\u00A0," ++ "," ++ "!north west ,*\u2028") = ["EU", "!north west", "*"] ∧
      (∀ t ∈ ["EU", "!north west", "*"], IsEntry t) ∧
      splitTokenList "EU,!north west,*" = ["EU", "!north west", "*"] := by
  have hsplit : splitTokenList ("\u3000EU,\u00A0," ++ "," ++ "!north west ,*\u2028") = ["EU", "!north west", "*"] := by
    rw [split_and_join.1]
    rfl
  have hentries : ∀ t ∈ ["EU", "!north west", "*"], IsEntry t := by
    rw [← hsplit]
    exact split_and_join.2.1 _
  exact ⟨hsplit, hentries, split_and_join.2.2 _ hentries⟩

end RowAccess
