import Mathlib.Data.List.Basic
import Mathlib.Tactic.Common
import RowAccess.Predicate
import RowAccess.Proofs.Row

/-!
# Decisions that stay

A predicate that is true or false of a row is so of every row that says more: a row is neither refused nor
admitted for what is learned about it later. Only what was unknown may change.
-/

namespace RowAccess

namespace Truth

/-- What is decided by the first truth value is decided so by the second. -/
def Below (a b : Truth) : Prop := ∀ v, a = some v → b = some v

variable {a a' b b' : Truth}

theorem Below.refl (a : Truth) : Below a a := fun _ h => h

theorem and_eq_true : a.and b = some true ↔ a = some true ∧ b = some true := by
  rcases a with _ | _ | _ <;> rcases b with _ | _ | _ <;> simp [and]

theorem and_eq_false : a.and b = some false ↔ a = some false ∨ b = some false := by
  rcases a with _ | _ | _ <;> rcases b with _ | _ | _ <;> simp [and]

theorem or_eq_not_and : a.or b = (a.not.and b.not).not := by
  rcases a with _ | _ | _ <;> rcases b with _ | _ | _ <;> rfl

theorem Below.not (h : Below a b) : Below a.not b.not := by
  intro v hv
  obtain ⟨w, hw, rfl⟩ := Option.map_eq_some_iff.mp hv
  exact Option.map_eq_some_iff.mpr ⟨w, h w hw, rfl⟩

theorem Below.and (ha : Below a a') (hb : Below b b') : Below (a.and b) (a'.and b') := by
  intro v hv
  cases v with
  | true =>
    obtain ⟨hleft, hright⟩ := and_eq_true.mp hv
    exact and_eq_true.mpr ⟨ha true hleft, hb true hright⟩
  | false =>
    -- One false part decides, whatever becomes of the other.
    rcases and_eq_false.mp hv with hleft | hright
    · exact and_eq_false.mpr (.inl (ha false hleft))
    · exact and_eq_false.mpr (.inr (hb false hright))

theorem Below.or (ha : Below a a') (hb : Below b b') : Below (a.or b) (a'.or b') := by
  rw [or_eq_not_and, or_eq_not_and]
  exact (ha.not.and hb.not).not

end Truth

/-- A path leads to the same value in a row that says more. -/
theorem FieldPath.resolve_extends {r s : Row} (h : r.Extends s) {path : FieldPath} {v : Value}
    (hv : path.resolve r = some v) : path.resolve s = some v := by
  obtain ⟨q, hq, hfield⟩ := Option.bind_eq_some_iff.mp hv
  obtain ⟨q', hq', hle⟩ := h.follow? hq
  exact Option.bind_eq_some_iff.mpr ⟨q', hq', hle.field? hfield⟩

namespace Predicate

theorem below_evaluate {r s : Row} (h : r.Extends s) (p : Predicate) :
    Truth.Below (p.evaluate r) (p.evaluate s) := by
  induction p with
  | always => exact .refl _
  | never => exact .refl _
  | equals path value =>
    intro b hb
    obtain ⟨found, hfound, rfl⟩ := Option.map_eq_some_iff.mp hb
    exact Option.map_eq_some_iff.mpr ⟨found, FieldPath.resolve_extends h hfound, rfl⟩
  | not p ih => exact ih.not
  | and p q ihp ihq => exact ihp.and ihq
  | or p q ihp ihq => exact ihp.or ihq

/-- What is decided of a row is decided so of every row that says more. However many fields are set that were
not, and rows attached where none was, an admitted row stays admitted and one that was definitely refused
is not admitted. -/
theorem decision_stays (p : Predicate) :
    (∀ r s : Row, r.Extends s → ∀ decision, p.evaluate r = some decision → p.evaluate s = some decision) ∧
    ∀ r s : Row, Relation.ReflTransGen Row.Filled r s →
      (p.admits r = true → p.admits s = true) ∧ (p.evaluate r = some false → p.admits s = false) := by
  have hstays : ∀ r s : Row, r.Extends s → ∀ decision, p.evaluate r = some decision → p.evaluate s = some decision :=
    fun r s h => below_evaluate h p
  refine ⟨hstays, fun r s hfilled => ?_⟩
  have hrs : r.Extends s := .of_filled hfilled
  constructor
  · intro hadmits
    have htrue := hstays r s hrs true (beq_iff_eq.mp hadmits)
    exact beq_iff_eq.mpr htrue
  · intro hfalse
    rw [admits, hstays r s hrs false hfalse]
    rfl

/-- An order of which only the region is known. -/
def bareOrder : Row := .mk [("region", .text "eu")] []

/-- The order with the customer who placed it, of whom the tier is known. -/
def placedOrder : Row := bareOrder.attach "customer" (Row.empty.setField "tier" (.text "gold"))

/-- Orders of a region, or of a customer of one tier. -/
def byRegionOrTier (region tier : String) : Predicate :=
  .or (.equals (.own "region") (.text region)) (.equals ⟨["customer"], "tier"⟩ (.text tier))

theorem decision_stays_placedOrder :
    bareOrder.Extends placedOrder ∧
    (byRegionOrTier "eu" "gold").evaluate placedOrder = some true ∧
    (byRegionOrTier "eu" "silver").admits placedOrder = true ∧
    (Predicate.not (byRegionOrTier "eu" "silver")).admits placedOrder = false := by
  have hmissing : bareOrder.parent? "customer" = none := rfl
  have hfilled : Relation.ReflTransGen Row.Filled bareOrder placedOrder := .single (.parent _ hmissing)
  have hmore : bareOrder.Extends placedOrder := .of_filled hfilled
  have hgold := (decision_stays (byRegionOrTier "eu" "gold")).1 bareOrder placedOrder hmore true (by decide +kernel)
  have hsilver := ((decision_stays (byRegionOrTier "eu" "silver")).2 bareOrder placedOrder hfilled).1
    (by decide +kernel)
  have hdenied := ((decision_stays (.not (byRegionOrTier "eu" "silver"))).2 bareOrder placedOrder hfilled).2
    (by decide +kernel)
  exact ⟨hmore, hgold, hsilver, hdenied⟩

end Predicate

end RowAccess
