import Mathlib.Data.List.Basic
import Mathlib.Logic.Relation
import Mathlib.Tactic.Common
import RowAccess.Proofs.NameMap
import RowAccess.Row

/-!
# Rows that say more

A row says more than another where it has every field value of the other and a row at the end of each edge
that the other is attached by, which says more in its turn. To set a field that is not set and to attach a
row where none is attached, near or at the end of some edges, lets a row say more.
-/

namespace RowAccess

namespace Row

/-- The second row has all that the first one has, and all that the rows at its edges have. -/
inductive Extends : Row → Row → Prop
  | intro {r s : Row}
      (fields : ∀ {name v}, r.field? name = some v → s.field? name = some v)
      (attached : ∀ {edge q}, r.parent? edge = some q → ∃ q', s.parent? edge = some q')
      (parents : ∀ {edge q q'}, r.parent? edge = some q → s.parent? edge = some q' → Extends q q') :
      Extends r s

/-- The row with one more field. -/
def setField (r : Row) (name : String) (v : Value) : Row := .mk ((name, v) :: r.fields) r.parents

/-- The row with another row at the end of an edge. -/
def attach (r : Row) (edge : String) (q : Row) : Row := .mk r.fields ((edge, q) :: r.parents)

/-- One step of filling a row in: a field that was not set, an edge that led nowhere, or such a step at the end
of an edge. -/
inductive Filled : Row → Row → Prop
  | field {r : Row} {name : String} (v : Value) (unset : r.field? name = none) : Filled r (r.setField name v)
  | parent {r : Row} {edge : String} (q : Row) (missing : r.parent? edge = none) : Filled r (r.attach edge q)
  | behind {r q q' : Row} {edge : String} (attached : r.parent? edge = some q) (more : Filled q q') :
      Filled r (r.attach edge q')

theorem field?_setField (r : Row) (name : String) (v : Value) (d : String) :
    (r.setField name v).field? d = if d = name then some v else r.field? d := lookup_cons_ite _ _ d

theorem parent?_attach (r : Row) (edge : String) (q : Row) (d : String) :
    (r.attach edge q).parent? d = if d = edge then some q else r.parent? d := lookup_cons_ite _ _ d

/-- The rows at the edges of a row are smaller than the row. -/
theorem sizeOf_parent {edge : String} {q : Row} : ∀ {r : Row}, r.parent? edge = some q → sizeOf q < sizeOf r
  | .mk fs ps, h => by
      obtain ⟨before, after, hps, -⟩ := List.lookup_eq_some_iff.mp h
      have hmem : (edge, q) ∈ (mk fs ps).parents := hps ▸ List.mem_append_right _ List.mem_cons_self
      have hsize : sizeOf (edge, q) < sizeOf ps := List.sizeOf_lt_of_mem hmem
      simp only [Prod.mk.sizeOf_spec, mk.sizeOf_spec] at hsize ⊢
      omega

namespace Extends

variable {r s t : Row} {edge : String} {q q' : Row}

theorem field? (h : r.Extends s) {name : String} {v : Value} (hv : r.field? name = some v) :
    s.field? name = some v := by
  cases h with
  | intro fields attached parents => exact fields hv

theorem parent? (h : r.Extends s) (hq : r.parent? edge = some q) : ∃ q', s.parent? edge = some q' ∧ q.Extends q' := by
  cases h with
  | intro fields attached parents =>
    obtain ⟨q', hq'⟩ := attached hq
    exact ⟨q', hq', parents hq hq'⟩

theorem refl (r : Row) : r.Extends r :=
  .intro id (fun {_ q} hq => ⟨q, hq⟩) fun {_ q _} hq hq' => by
    have heq := Option.some.inj (hq.symm.trans hq')
    subst heq
    have := sizeOf_parent hq
    exact refl q
termination_by sizeOf r

theorem trans (hrs : r.Extends s) (hst : s.Extends t) : r.Extends t := by
  induction hrs generalizing t with
  | @intro r s fields attached parents ih =>
    refine .intro (fun hv => hst.field? (fields hv)) (fun hq => ?_) fun hq hq'' => ?_
    · obtain ⟨q', hq'⟩ := attached hq
      obtain ⟨q'', hq'', -⟩ := hst.parent? hq'
      exact ⟨q'', hq''⟩
    · obtain ⟨q', hq'⟩ := attached hq
      obtain ⟨found, hfound, hle⟩ := hst.parent? hq'
      have heq := Option.some.inj (hfound.symm.trans hq'')
      exact ih hq hq' (heq ▸ hle)

/-- What is reached from a row is reached from a row that says more, and says more there. -/
theorem follow? {edges : List String} (h : r.Extends s) (hq : r.follow? edges = some q) :
    ∃ q', s.follow? edges = some q' ∧ q.Extends q' := by
  induction edges generalizing r s with
  | nil =>
    cases hq
    exact ⟨s, rfl, h⟩
  | cons edge rest ih =>
    obtain ⟨next, hnext, hrest⟩ := Option.bind_eq_some_iff.mp hq
    obtain ⟨next', hnext', hle⟩ := h.parent? hnext
    obtain ⟨q', hq', hqq'⟩ := ih hle hrest
    exact ⟨q', Option.bind_eq_some_iff.mpr ⟨next', hnext', hq'⟩, hqq'⟩

/-- A row with one more field, set where none was, says more. -/
theorem setField {name : String} (h : r.field? name = none) (v : Value) : r.Extends (r.setField name v) := by
  refine .intro (fun {d w} hw => ?_) (fun {_ q} hq => ⟨q, hq⟩) fun {_ q q'} hq hq' => ?_
  · have hne : d ≠ name := fun heq => by simp [heq, h] at hw
    rw [field?_setField, if_neg hne, hw]
  · have heq := Option.some.inj (hq.symm.trans hq')
    exact heq ▸ refl q

/-- A row says more when the row at the end of an edge does, or when none was attached there. -/
theorem attach (h : ∀ {old}, r.parent? edge = some old → old.Extends q) : r.Extends (r.attach edge q) := by
  refine .intro id (fun {d old} hold => ?_) fun {d old new} hold hnew => ?_
  · rw [parent?_attach]
    split
    next => exact ⟨q, rfl⟩
    next => exact ⟨old, hold⟩
  · rw [parent?_attach] at hnew
    split at hnew
    next heq =>
      cases hnew
      exact h (heq ▸ hold)
    next =>
      have heq := Option.some.inj (hold.symm.trans hnew)
      exact heq ▸ refl old

end Extends

theorem Filled.extends {r s : Row} (h : r.Filled s) : r.Extends s := by
  induction h with
  | field v unset => exact .setField unset v
  | parent q missing => exact .attach fun hold => by simp [missing] at hold
  | behind attached more ih => exact .attach fun hold => Option.some.inj (attached.symm.trans hold) ▸ ih

/-- A row that was filled in step by step says more than at the start. -/
theorem Extends.of_filled {r s : Row} (h : Relation.ReflTransGen Filled r s) : r.Extends s := by
  induction h with
  | refl => exact .refl r
  | tail _ more ih => exact ih.trans more.extends

end Row

end RowAccess
