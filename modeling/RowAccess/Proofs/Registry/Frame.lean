import Mathlib.Data.List.Basic
import Mathlib.Tactic.Common
import RowAccess.Proofs.Registry.Lookup

/-!
# What requests leave as it is

Whatever a request answers and whatever it keeps, it leaves every fact as it is, and a traversal comes back
with the types being visited that it set out with, on failures too. Nothing is asked of the source or of
what is kept.
-/

namespace RowAccess

namespace Registry

variable {r : Registry} {b : Builder} {view : SourceView}

/-- A request for the own fields changes the own slot only. -/
theorem facts_resolveOwn (b : Builder) (view : SourceView) (serial : Nat) :
    (b.resolveOwn view serial).builder.facts = b.facts := by
  unfold Builder.resolveOwn
  dsimp only
  split
  · rfl
  · split
    · rfl
    · split <;> rfl

theorem entity_eq_of_facts {b c : Builder} (h : b.facts = c.facts) : b.entity = c.entity :=
  congrArg (fun known => known.schema.entity) h

theorem extends_resolveOwn (h : r.builder? b.entity = some b) (view : SourceView) :
    Extends r (r.resolveOwn view b).1 := by
  have hfacts := facts_resolveOwn b view r.serial
  have hentity := entity_eq_of_facts hfacts
  exact extends_put (b := (b.resolveOwn view r.serial).builder) (by rw [hentity, h]) hfacts _

theorem facts_settle (b : Builder) (own : Restriction) (g : Nat)
    (parents : List (Edge × Builder.Resolved)) (complete : Bool) (serial : Nat) :
    (b.settle own g parents complete serial).1.facts = b.facts := by
  unfold Builder.settle
  dsimp only
  split
  · split <;> rfl
  · rfl

/-- A traversal that went on from another one. -/
structure Continues (t t' : Traversal) : Prop where
  extension : Extends t.registry t'.registry
  visiting : t'.visiting = t.visiting

theorem Continues.refl (t : Traversal) : Continues t t := ⟨.refl _, rfl⟩

theorem Continues.trans {t t' t'' : Traversal} (h : Continues t t') (h' : Continues t' t'') :
    Continues t t'' :=
  ⟨h.extension.trans h'.extension, h'.visiting.trans h.visiting⟩

variable {visit : Traversal → String → Traversal × Except Fault Builder.Resolved}

theorem continues_parents (hv : ∀ t entity, Continues t (visit t entity).1) :
    ∀ (edges : List Edge) (t : Traversal), Continues t (resolveParents visit t edges).1
  | [], t => .refl t
  | e :: rest, t => by
      unfold resolveParents
      split
      next =>
        have hrest := continues_parents hv rest t
        generalize resolveParents visit t rest = out at hrest
        obtain ⟨t', result⟩ := out
        cases result <;> exact hrest
      next =>
        have hfirst := hv t e.target
        generalize visit t e.target = out at hfirst
        obtain ⟨t', result⟩ := out
        cases result with
        | error f => exact hfirst
        | ok x =>
          have hrest := hfirst.trans (continues_parents hv rest t')
          dsimp only
          generalize resolveParents visit t' rest = out at hrest
          obtain ⟨t'', result⟩ := out
          cases result <;> exact hrest

theorem continues_compose (view : SourceView) (hv : ∀ t entity, Continues t (visit t entity).1)
    {t : Traversal} (hb : t.registry.builder? b.entity = some b) :
    Continues t (compose visit view t b).1 := by
  have hown := extends_resolveOwn hb view
  unfold compose
  generalize t.registry.resolveOwn view b = out at hown
  obtain ⟨r₁, result⟩ := out
  cases result with
  | error f => exact ⟨hown, rfl⟩
  | ok x =>
    have hfirst : Continues t { t with registry := r₁ } := ⟨hown, rfl⟩
    have hparents := hfirst.trans (continues_parents hv b.schema.edges { t with registry := r₁ })
    dsimp only
    generalize resolveParents visit { t with registry := r₁ } b.schema.edges = out at hparents
    obtain ⟨t₂, result⟩ := out
    cases result with
    | error f => exact hparents
    | ok y =>
      dsimp only
      cases hb₂ : t₂.registry.builder? b.entity with
      | none => exact hparents
      | some b₂ =>
        have hfacts := facts_settle b₂ x.1 x.2 y.1 y.2 t₂.registry.serial
        have hput := extends_put (b := (b₂.settle x.1 x.2 y.1 y.2 t₂.registry.serial).1)
          (r := t₂.registry) (by rw [entity_eq_of_facts hfacts, builder?_entity hb₂, hb₂]) hfacts
          (b₂.settle x.1 x.2 y.1 y.2 t₂.registry.serial).2.1
        exact hparents.trans ⟨hput, rfl⟩

theorem continues_resolve (view : SourceView) :
    ∀ (fuel : Nat) (t : Traversal) (entity : String), Continues t (resolve view fuel t entity).1
  | 0, t, _ => .refl t
  | fuel + 1, t, entity => by
      have hget := extends_get t.registry entity
      unfold resolve
      cases hg : t.registry.get entity with
      | mk r result =>
        rw [hg] at hget
        cases result with
        | error f => exact ⟨hget, rfl⟩
        | ok b =>
          have hb := get_ok hg
          obtain rfl := builder?_entity hb
          have hstep := continues_compose view (continues_resolve view fuel)
            (t := ⟨r, t.visiting ++ [b.entity]⟩) hb
          refine ⟨hget.trans hstep.extension, ?_⟩
          show List.dropLast _ = t.visiting
          rw [hstep.visiting, List.dropLast_concat]

/-! ### Requests -/

theorem extends_ownRestriction (r : Registry) (view : SourceView) (entity : String) :
    Extends r (r.ownRestriction view entity).1 := by
  obtain ⟨f, -, heq⟩ | ⟨r₁, b, hg, hb, rfl, heq⟩ := r.ownRestriction_cases view entity
  · rw [heq]
    exact .refl r
  · have hget := extends_of_get hg
    rw [heq]
    exact hget.trans (extends_resolveOwn hb view)

theorem extends_inclusiveRestriction (r : Registry) (view : SourceView) (entity : String) :
    Extends r (r.inclusiveRestriction view entity).1 := by
  rw [inclusiveRestriction_eq_resolve]
  exact (continues_resolve view (r.typeBound + 1) ⟨r, []⟩ entity).extension

end Registry

end RowAccess
