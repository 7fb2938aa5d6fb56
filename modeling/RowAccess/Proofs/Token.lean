import Mathlib.Data.List.Basic
import Mathlib.Tactic.Common
import RowAccess.Token

/-!
# Tokens in other words

Tokens are held as a list, but they are read one by one and trimmed. A list that is put in another order, repeats
what it holds, or writes blanks around its tokens is read as the same tokens: `Token.Retold` closes this under any
number of such changes, in either direction.

Lists of tokens may be written as one text. Two such texts with a comma between them are read as both lists.
-/

namespace RowAccess

namespace Text

/-- Blanks around a text are trimmed off. -/
theorem trim_pad {before s after : List Char} (hbefore : ∀ c ∈ before, isBlank c = true)
    (hafter : ∀ c ∈ after, isBlank c = true) : trim (before ++ s ++ after) = trim s := by
  have hleft : trimLeft (before ++ s ++ after) = trimLeft (s ++ after) := by
    unfold trimLeft
    rw [List.append_assoc, List.dropWhile_append_of_pos hbefore]
  have hright : ∀ text, trimRight (text ++ after) = trimRight text := by
    intro text
    unfold trimRight
    rw [List.reverse_append, List.dropWhile_append_of_pos fun c hc => hafter c (List.mem_reverse.mp hc)]
  unfold trim
  rw [hleft]
  unfold trimLeft
  rw [List.dropWhile_append]
  split
  next hblank =>
    -- Nothing but blanks is left: all of it goes with the blanks behind it.
    rw [List.isEmpty_iff.mp hblank, ← List.append_nil after, List.dropWhile_append_of_pos hafter]
    rfl
  next => rw [hright]

theorem splitAtEvery_ne_nil (p : Char → Bool) (s : List Char) : splitAtEvery p s ≠ [] := by
  cases s with
  | nil => exact List.cons_ne_nil _ _
  | cons c rest =>
    unfold splitAtEvery
    split
    · exact List.cons_ne_nil _ _
    · split <;> exact List.cons_ne_nil _ _

/-- A separator between two texts divides their pieces. -/
theorem splitAtEvery_append {p : Char → Bool} {c : Char} (hc : p c = true) (t : List Char) :
    ∀ s : List Char, splitAtEvery p (s ++ c :: t) = splitAtEvery p s ++ splitAtEvery p t
  | [] => by
      cases h : splitAtEvery p t with
      | nil => exact absurd h (splitAtEvery_ne_nil p t)
      | cons piece pieces => simp only [List.nil_append, splitAtEvery, h, if_pos hc, List.singleton_append]
  | d :: s => by
      cases h : splitAtEvery p s with
      | nil => exact absurd h (splitAtEvery_ne_nil p s)
      | cons piece pieces =>
        simp only [List.cons_append, splitAtEvery, splitAtEvery_append hc t s, h]
        split <;> rfl

end Text

namespace Token

variable {held held' : List String}

/-- A token with blanks around it is the same token. -/
theorem parse_pad {before after : List Char} (raw : String) (hbefore : ∀ c ∈ before, Text.isBlank c = true)
    (hafter : ∀ c ∈ after, Text.isBlank c = true) :
    parse (String.ofList (before ++ raw.toList ++ after)) = parse raw := by
  unfold parse
  rw [String.toList_ofList, Text.trim_pad hbefore hafter]

/-- Lists of which one tells the tokens of the other in another order, repeated, or with blanks around them. -/
inductive Retold : List String → List String → Prop
  | reorder {held held' : List String} (h : held.Perm held') : Retold held held'
  | again {held : List String} {raw : String} (h : raw ∈ held) : Retold held (raw :: held)
  | pad {before after : List Char} (raw : String) (rest : List String)
      (hbefore : ∀ c ∈ before, Text.isBlank c = true) (hafter : ∀ c ∈ after, Text.isBlank c = true) :
      Retold (raw :: rest) (String.ofList (before ++ raw.toList ++ after) :: rest)
  | symm {held held' : List String} (h : Retold held held') : Retold held' held
  | trans {held held' held'' : List String} (h : Retold held held') (h' : Retold held' held'') :
      Retold held held''

/-- Lists that tell the same are read as the same tokens. -/
theorem Retold.mem_parse (h : Retold held held') : ∀ t, t ∈ held.map parse ↔ t ∈ held'.map parse := by
  induction h with
  | reorder h => exact fun t => (h.map parse).mem_iff
  | again h =>
    intro t
    rw [List.map_cons, List.mem_cons]
    exact ⟨.inr, fun ht => ht.elim (fun heq => heq ▸ List.mem_map_of_mem h) id⟩
  | pad raw rest hbefore hafter =>
    intro t
    rw [List.map_cons, List.map_cons, parse_pad raw hbefore hafter]
  | symm _ ih => exact fun t => (ih t).symm
  | trans _ _ ih ih' => exact fun t => (ih t).trans (ih' t)

end Token

/-- Two lists of tokens with a comma between them are read as one. -/
theorem splitTokenList_append (s t : String) :
    splitTokenList (s ++ "," ++ t) = splitTokenList s ++ splitTokenList t := by
  have hchars : (s ++ "," ++ t).toList = s.toList ++ ',' :: t.toList := by
    rw [String.toList_append, String.toList_append, List.append_assoc]
    rfl
  unfold splitTokenList
  rw [hchars, Text.splitAtEvery_append rfl, List.map_append, List.filter_append, List.map_append]

end RowAccess
