import Mathlib.Data.List.Basic
import Mathlib.Tactic.Common
import RowAccess.Proofs.Token
import RowAccess.Uuid

/-!
# Identifiers that are read back

The written form of an identifier has no braces and no name space before it. Cut at its hyphens it falls into the five
groups it was made of, which hold all digits.
-/

namespace RowAccess

namespace Uuid

theorem hexChar_spec (d : Fin 16) : hexDigit? (hexChar d) = some d ∧ (hexChar d).isAlphanum = true ∧
    (hexChar d).toLower ≠ 'u' := by
  revert d
  decide

theorem digits?_hexChars (ds : List (Fin 16)) : digits? (ds.map hexChar) = some ds := by
  induction ds with
  | nil => rfl
  | cons d ds ih => simp only [List.map_cons, digits?, (hexChar_spec d).1, ih]

theorem groups_of_hexChars {s : List Char} (h : ∀ c ∈ s, c ≠ '-') : groups s = [s] := by
  induction s with
  | nil => rfl
  | cons c s ih =>
    obtain ⟨hc, hrest⟩ := List.forall_mem_cons.mp h
    have hs := ih hrest
    unfold groups at hs ⊢
    simp [Text.splitAtEvery, hs, hc]

theorem groups_append {s : List Char} (h : ∀ c ∈ s, c ≠ '-') (t : List Char) :
    groups (s ++ '-' :: t) = s :: groups t := by
  have hs := groups_of_hexChars h
  unfold groups at hs ⊢
  rw [Text.splitAtEvery_append rfl, hs, List.singleton_append]

/-- The characters of the digits of an identifier. -/
def hexChars (u : Uuid) : List Char := u.digits.map hexChar

theorem mem_hexChars {u : Uuid} {c : Char} (h : c ∈ u.hexChars) : c.isAlphanum = true := by
  obtain ⟨d, -, rfl⟩ := List.mem_map.mp h
  exact (hexChar_spec d).2.1

theorem length_hexChars (u : Uuid) : u.hexChars.length = 32 := by rw [hexChars, List.length_map, u.length_digits]

theorem text_eq (u : Uuid) : u.text = u.hexChars.take 8 ++ '-' :: ((u.hexChars.drop 8).take 4 ++
    '-' :: ((u.hexChars.drop 12).take 4 ++ '-' :: ((u.hexChars.drop 16).take 4 ++ '-' :: u.hexChars.drop 20))) := by
  unfold text
  simp only [hexChars, List.append_assoc, List.cons_append]

theorem mem_text {u : Uuid} {c : Char} (h : c ∈ u.text) : c.isAlphanum = true ∨ c = '-' := by
  rw [text_eq] at h
  simp only [List.mem_append, List.mem_cons] at h
  rcases h with h | h | h | h | h | h | h | h | h
  · exact .inl (mem_hexChars (List.mem_of_mem_take h))
  · exact .inr h
  · exact .inl (mem_hexChars (List.mem_of_mem_drop (List.mem_of_mem_take h)))
  · exact .inr h
  · exact .inl (mem_hexChars (List.mem_of_mem_drop (List.mem_of_mem_take h)))
  · exact .inr h
  · exact .inl (mem_hexChars (List.mem_of_mem_drop (List.mem_of_mem_take h)))
  · exact .inr h
  · exact .inl (mem_hexChars (List.mem_of_mem_drop h))

theorem groups_text (u : Uuid) : groups u.text = [u.hexChars.take 8, (u.hexChars.drop 8).take 4,
    (u.hexChars.drop 12).take 4, (u.hexChars.drop 16).take 4, u.hexChars.drop 20] := by
  have hhyphen : ∀ c ∈ u.hexChars, c ≠ '-' := by
    rintro c hc rfl
    exact absurd (mem_hexChars hc) (by decide)
  have hgroup : ∀ k n, ∀ c ∈ (u.hexChars.drop k).take n, c ≠ '-' :=
    fun k n c hc => hhyphen c (List.mem_of_mem_drop (List.mem_of_mem_take hc))
  rw [text_eq, groups_append fun c hc => hhyphen c (List.mem_of_mem_take hc), groups_append (hgroup 8 4),
    groups_append (hgroup 12 4), groups_append (hgroup 16 4),
    groups_of_hexChars fun c hc => hhyphen c (List.mem_of_mem_drop hc)]

theorem ofGroups?_text (u : Uuid) : ofGroups? u.text = some u := by
  have hlengths : (groups u.text).map List.length = groupLengths := by
    simp [groups_text, length_hexChars, groupLengths]
  have hjoined : (groups u.text).flatten = u.hexChars := by
    have hdrop : ∀ k, (u.hexChars.drop k).take 4 ++ u.hexChars.drop (k + 4) = u.hexChars.drop k := fun k => by
      rw [← List.drop_drop, List.take_append_drop]
    simp only [groups_text, List.flatten_cons, List.flatten_nil, List.append_nil]
    rw [hdrop 16, hdrop 12, hdrop 8, List.take_append_drop]
  rw [ofGroups?, if_pos hlengths, hjoined, hexChars, digits?_hexChars, Option.bind_some, ofDigits?,
    dif_pos u.length_digits]

theorem unwrap_text (u : Uuid) : unwrap u.text = (.bare, u.text) := by
  obtain ⟨d, ds, hds⟩ : ∃ d ds, u.digits = d :: ds := List.exists_cons_of_length_pos (by rw [u.length_digits]; decide)
  obtain ⟨rest, hcons⟩ : ∃ rest, u.text = hexChar d :: rest := by
    simp [text_eq, hexChars, hds]
  have hbrace : hexChar d ≠ '\x7b' := by
    intro h
    exact absurd (hexChar_spec d).2.1 (by rw [h]; decide)
  have hname : (u.text.take 9).map Char.toLower ≠ "urn:uuid:".toList := by
    intro h
    rw [hcons] at h
    exact (hexChar_spec d).2.2 (List.cons.inj h).1
  unfold unwrap
  split
  next rest' h => exact absurd (List.cons.inj (hcons.symm.trans h)).1 hbrace
  next => rw [if_neg hname]

/-- An identifier is read back from what is written for it. -/
theorem read_text (u : Uuid) : read? u.text = .ok u := by
  simp only [read?, unwrap_text, ofGroups?_text]

end Uuid

end RowAccess
