import Mathlib.Data.List.Basic
import Mathlib.Tactic.Common
import RowAccess.Proofs.Registry.Fresh
import RowAccess.Proofs.Restriction

/-!
# The slot of the inclusive restriction

The slot answers where its parts have the generations that it was put together from, and only a complete
restriction is kept in it. A restriction that is put together is a new object, or else the own restriction
itself; so if one of its parts is newer than some objects, it is newer than those as well.
-/

namespace RowAccess

open RowAccess.Builder (Resolved)

namespace Builder

variable {b : Builder} {g serial first : Nat} {x own : Restriction} {parents : List (Edge × Resolved)}

/-! ### Serial numbers -/

theorem object_serial_le (serial : Nat) (content : Option Predicate) :
    serial ≤ (object serial content).2 := by
  cases content with
  | none => exact Nat.le_refl _
  | some p => exact Nat.le_succ _

theorem combined_serial_le (own : Restriction) (parents : List (Edge × Resolved)) (serial : Nat) :
    serial ≤ (combined own parents serial).2 := by
  unfold combined
  split
  · exact Nat.le_refl _
  · exact object_serial_le _ _

theorem settle_serial_le (b : Builder) (own : Restriction) (g : Nat) (parents : List (Edge × Resolved))
    (complete : Bool) (serial : Nat) : serial ≤ (b.settle own g parents complete serial).2.1 := by
  unfold settle
  dsimp only
  split
  · split
    · exact Nat.le_refl _
    · exact combined_serial_le _ _ _
  · exact combined_serial_le _ _ _

/-! ### What settling does -/

theorem settle_complete (b : Builder) (own : Restriction) (g : Nat) (parents : List (Edge × Resolved))
    (complete : Bool) (serial : Nat) :
    (b.settle own g parents complete serial).2.2.complete = complete := by
  unfold settle
  cases complete with
  | false => rfl
  | true =>
    simp only [if_true]
    split <;> rfl

/-- What a complete inclusive restriction comes from: it is kept, or its parts have other generations than when
it was put together. -/
inductive SettleStep (b : Builder) (own : Restriction) (g : Nat) (parents : List (Edge × Resolved))
    (serial : Nat) : Builder × Nat × Resolved → Prop
  | kept (x : Restriction) (held : b.inclusive.restriction = some x)
      (sameOwn : b.inclusive.ownGeneration = g)
      (sameParents : b.inclusive.parentGenerations = parents.map fun p => p.2.generation) :
      SettleStep b own g parents serial (b, serial, ⟨x, b.inclusive.generation, true⟩)
  | built (changed : keptInclusive? b.inclusive g (parents.map fun p => p.2.generation) = none) :
      SettleStep b own g parents serial
        ({ b with
            inclusive := ⟨some (combined own parents serial).1, g,
              parents.map fun p => p.2.generation, b.inclusive.generation + 1⟩ },
          (combined own parents serial).2,
          ⟨(combined own parents serial).1, b.inclusive.generation + 1, true⟩)

theorem settle_step (b : Builder) (own : Restriction) (g : Nat) (parents : List (Edge × Resolved))
    (serial : Nat) : SettleStep b own g parents serial (b.settle own g parents true serial) := by
  unfold Builder.settle
  simp only [if_true]
  split
  next x hx =>
    unfold keptInclusive? at hx
    split at hx
    next hsame => exact .kept x hx hsame.1 hsame.2
    next => cases hx
  next hnone => exact .built hnone

/-- What was put together from the same generations is kept. -/
theorem settle_of_same {own : Restriction} {parents : List (Edge × Resolved)}
    (hx : b.inclusive.restriction = some x) (hown : b.inclusive.ownGeneration = g)
    (hparents : b.inclusive.parentGenerations = parents.map fun p => p.2.generation) (serial : Nat) :
    b.settle own g parents true serial = (b, serial, ⟨x, b.inclusive.generation, true⟩) := by
  have hstep := b.settle_step own g parents serial
  generalize b.settle own g parents true serial = out at hstep
  cases hstep with
  | kept y held =>
    obtain rfl := Option.some.inj (hx.symm.trans held)
    rfl
  | built changed =>
    unfold keptInclusive? at changed
    rw [if_pos ⟨hown, hparents⟩, hx] at changed
    cases changed

/-! ### Newer parts -/

/-- Only open parts are open together. -/
theorem combine_eq_none {own : Option Predicate} :
    ∀ {parents : List (String × Option Predicate)}, Facts.combine own parents = none →
      own = none ∧ ∀ p ∈ parents, p.2 = none
  | [], h => ⟨h, fun p hp => by cases hp⟩
  | p :: rest, h => by
      unfold Facts.combine at h
      rw [List.foldl_cons] at h
      obtain ⟨hfirst, hrest⟩ := combine_eq_none h
      cases hp : p.2 with
      | some q =>
        rw [hp] at hfirst
        cases hfirst
      | none =>
        rw [hp] at hfirst
        refine ⟨hfirst, fun q hq => ?_⟩
        rcases List.mem_cons.mp hq with rfl | hq
        · exact hp
        · exact hrest q hq

/-- An object with a serial number is no open restriction. -/
theorem content_of_serial (h : first ≤ x.serial) (hfirst : 0 < first) : x.content ≠ none := by
  cases x with
  | unrestricted => exact absurd h (Nat.not_le.mpr hfirst)
  | restricted n p => exact fun hnone => by cases hnone

/-- What is put together from a newer part is newer. -/
theorem combined_newer (hfirst : 0 < first) (hle : first ≤ serial)
    (h : first ≤ own.serial ∨ ∃ p ∈ parents, first ≤ p.2.restriction.serial) :
    first ≤ (combined own parents serial).1.serial := by
  unfold combined
  split
  next hopen =>
    refine h.elim id ?_
    rintro ⟨p, hp, hnew⟩
    have hunrestricted := List.all_eq_true.mp hopen p hp
    exact absurd (Restriction.isUnrestricted_iff.mp hunrestricted) (content_of_serial hnew hfirst)
  next =>
    rw [combine_eq]
    cases hcontent : Facts.combine own.content (parents.map fun p => (p.1.name, p.2.restriction.content)) with
    | some q => exact hle
    | none =>
      obtain ⟨hown, hparents⟩ := combine_eq_none hcontent
      rcases h with hnew | ⟨p, hp, hnew⟩
      · exact absurd hown (content_of_serial hnew hfirst)
      · exact absurd (hparents _ (List.mem_map_of_mem hp)) (content_of_serial hnew hfirst)

end Builder

end RowAccess
