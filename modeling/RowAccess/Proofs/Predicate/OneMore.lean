import Mathlib.Data.List.Basic
import Mathlib.Tactic.Common
import RowAccess.Proofs.Predicate.Held

/-!
# One token more

A denial that is held besides other tokens takes values away. An allowance adds values where there was one
already, and where nothing was held, which admits nothing. Where only denials were held, an allowance takes
values away too, because it is the first to say what is allowed.
-/

namespace RowAccess

namespace Token

variable {k : Kind} {tokens more : List Token} {t u : Token} {found : Option Value}

/-- Lists of tokens of which the second holds one more, whatever the order. -/
def Extra (tokens more : List Token) (t : Token) : Prop := ∀ u, u ∈ more ↔ u = t ∨ u ∈ tokens

theorem Extra.held (h : Extra tokens more t) (hu : u ∈ tokens) : u ∈ more := (h u).mpr (.inr hu)

/-- A token of the other sign is not the one that was added. -/
theorem Extra.old (h : Extra tokens more t) (hu : u ∈ more) (hsign : u.isNegated = !t.isNegated) :
    u ∈ tokens := by
  rcases (h u).mp hu with rfl | hold
  · simp at hsign
  · exact hold

/-- What is admitted with a denial more is admitted without it, if something is held then. -/
theorem Admit.of_denial (hpass : Admit k more found) (h : Extra tokens more t)
    (ht : t.isNegated = true) (hheld : tokens ≠ []) : Admit k tokens found where
  held := hheld
  undenied := fun hin => hpass.undenied (h.held hin)
  value := by
    -- The allowances are the same on both sides.
    have hallow : ∀ u, u.isNegated = false → u ∈ more → u ∈ tokens := by
      intro u hu hin
      exact h.old hin (by rw [hu, ht]; rfl)
    rcases hpass.value with hall | ⟨v, hv, hallowed, hdenied⟩
    · exact .inl (hallow allowAll rfl hall)
    · refine .inr ⟨v, hv, ?_, fun text w hin => hdenied text w (h.held hin)⟩
      rintro ⟨text, hin⟩
      obtain ⟨text', w, hin', hw, heq⟩ := hallowed ⟨text, h.held hin⟩
      exact ⟨text', w, hallow (allow text') rfl hin', hw, heq⟩

/-- What is admitted stays admitted with an allowance more, if there was an allowance. -/
theorem Admit.of_allowance (hpass : Admit k tokens found) (h : Extra tokens more t)
    (ht : t.isNegated = false) (hu : u ∈ tokens) (hsign : u.isNegated = false) : Admit k more found where
  held := List.ne_nil_of_mem (h.held hu)
  undenied := by
    intro hin
    exact hpass.undenied (h.old hin (by rw [ht]; rfl))
  value := by
    have hdeny : ∀ text, deny text ∈ more → deny text ∈ tokens := by
      intro text hin
      exact h.old hin (by rw [ht]; rfl)
    rcases hpass.value with hall | ⟨v, hv, hallowed, hdenied⟩
    · exact .inl (h.held hall)
    · cases u with
      | allowAll => exact .inl (h.held hu)
      | allow text =>
        obtain ⟨text', w, hin, hw, heq⟩ := hallowed ⟨text, hu⟩
        exact .inr ⟨v, hv, fun _ => ⟨text', w, h.held hin, hw, heq⟩,
          fun text w hin => hdenied text w (hdeny text hin)⟩
      | deny text => cases hsign
      | denyAll => cases hsign

end Token

/-! ### Tables -/

/-- Tables that differ in one dimension only, where the second holds one token more, in any place. -/
structure OneMore (held more : String → List String) (dimension token : String) : Prop where
  elsewhere : ∀ d, d ≠ dimension → more d = held d
  there : ∃ before after, held dimension = before ++ after ∧ more dimension = before ++ token :: after

theorem OneMore.extra {held more : String → List String} {dimension token : String}
    (h : OneMore held more dimension token) :
    Token.Extra ((held dimension).map Token.parse) ((more dimension).map Token.parse)
      (Token.parse token) := by
  obtain ⟨before, after, hheld, hmore⟩ := h.there
  intro u
  rw [hheld, hmore]
  simp only [List.map_append, List.map_cons, List.mem_append, List.mem_cons]
  tauto

end RowAccess
