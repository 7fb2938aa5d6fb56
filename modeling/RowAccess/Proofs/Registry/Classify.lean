import Mathlib.Data.List.Basic
import Mathlib.Logic.Function.Basic
import Mathlib.Tactic.Common
import RowAccess.Proofs.Registry.Lookup

/-!
# Classifying fields

Whether a field can be classified, and what is known afterwards, follows from what is known before. What
builders keep has no part in it.
-/

namespace RowAccess

/-- A builder that keeps nothing. -/
def Builder.emptied (b : Builder) : Builder := { b with own := .empty, inclusive := .empty }

namespace Facts

/-- The builder that knows just this. -/
def builder (known : Facts) : Builder := ⟨known.schema, known.classified, .empty, .empty⟩

/-- What is known of a type after a field was classified. -/
def classify (known : Facts) (field dimension : String) : Except Fault Facts :=
  (known.builder.classify field dimension).map Builder.facts

end Facts

/-- A schema stays what it is when a field is classified. -/
theorem Facts.schema_classify {known known' : Facts} {field dimension : String}
    (h : known.classify field dimension = .ok known') : known'.schema = known.schema := by
  unfold classify at h
  cases hc : known.builder.classify field dimension with
  | error f =>
    rw [hc] at h
    cases h
  | ok b =>
    rw [hc] at h
    obtain rfl := Except.ok.inj h
    exact Builder.classify_schema hc

theorem Builder.classify_facts (b : Builder) (field dimension : String) :
    (b.classify field dimension).map Builder.facts = b.facts.classify field dimension := by
  have hfield : b.facts.builder.classifiableField? field = b.classifiableField? field := rfl
  unfold Facts.classify Builder.classify
  rw [hfield]
  cases b.classifiableField? field with
  | error f => rfl
  | ok f =>
    show Except.map Builder.facts _ = Except.map Builder.facts _
    simp only [bind, Except.bind]
    have hfound : b.facts.builder.classified = b.classified := rfl
    rw [hfound]
    cases b.classified.find? fun c => c.field = field with
    | none => rfl
    | some c =>
      dsimp only
      split <;> rfl

namespace Registry

variable {r r' : Registry} {b : Builder}

theorem facts_put {c : Builder} (h : r.builder? b.entity = some c) :
    (r.put b).facts = Function.update r.facts b.entity (.ok b.facts) := by
  funext e
  by_cases he : e = b.entity
  · subst he
    rw [Function.update_self, facts_of_builder (b := b)]
    rw [builder?_put, if_pos rfl, h, Option.map_some]
  · rw [Function.update_of_ne he, facts_eq, facts_eq, builder?_put, if_neg he]
    rfl

theorem classify_result (r : Registry) (entity field dimension : String) :
    (r.classify entity field dimension).2 =
      (r.facts entity).bind fun known => (known.classify field dimension).map fun _ => () := by
  unfold classify facts
  cases r.get entity with
  | mk r₁ result =>
    cases result with
    | error f => rfl
    | ok b =>
      dsimp only [Except.map, Except.bind]
      rw [← Builder.classify_facts]
      cases b.classify field dimension <;> rfl

/-- What is known after a field was classified: more of its own type, if that is possible. -/
theorem facts_classify (r : Registry) (entity field dimension : String) :
    (r.classify entity field dimension).1.facts =
      ((r.facts entity).bind fun known => known.classify field dimension).toOption.elim r.facts
        fun known => Function.update r.facts entity (.ok known) := by
  have hext := extends_get r entity
  have hknown : r.facts entity = (r.get entity).2.map Builder.facts := rfl
  unfold classify
  rw [hknown]
  cases hg : r.get entity with
  | mk r₁ result =>
    rw [hg] at hext
    cases result with
    | error f => exact hext.facts
    | ok b =>
      have hb := get_ok hg
      obtain rfl := builder?_entity hb
      dsimp only [Except.map, Except.bind]
      rw [← Builder.classify_facts]
      cases hc : b.classify field dimension with
      | error f => exact hext.facts
      | ok b' =>
        have hentity : b'.entity = b.entity := congrArg Schema.entity (Builder.classify_schema hc)
        show (r₁.put b').facts = Function.update r.facts b.entity (.ok b'.facts)
        rw [facts_put (hentity ▸ hb), hext.facts, hentity]

/-- Either nothing more is known after a field was classified, or more of a type of which something was known. -/
theorem facts_classify_cases (r : Registry) (entity field dimension : String) :
    (r.classify entity field dimension).1.facts = r.facts ∨
      ∃ known known', r.facts entity = .ok known ∧ known.classify field dimension = .ok known' ∧
        (r.classify entity field dimension).1.facts = Function.update r.facts entity (.ok known') := by
  rw [facts_classify]
  cases r.facts entity with
  | error f => exact .inl rfl
  | ok known =>
    dsimp only [Except.bind]
    cases hc : known.classify field dimension with
    | error f => exact .inl rfl
    | ok known' => exact .inr ⟨known, known', rfl, hc, rfl⟩

/-- Registries that know the same answer the same when a field is classified, and know the same then. -/
theorem classify_congr (h : r'.facts = r.facts) (entity field dimension : String) :
    (r'.classify entity field dimension).2 = (r.classify entity field dimension).2 ∧
      (r'.classify entity field dimension).1.facts = (r.classify entity field dimension).1.facts := by
  rw [classify_result, classify_result, facts_classify, facts_classify, h]
  exact ⟨rfl, rfl⟩

/-- The builder of a type is what is known of it, but for what it keeps. -/
theorem get_emptied (r : Registry) (entity : String) :
    (r.get entity).2.map Builder.emptied = (r.facts entity).map Facts.builder := by
  unfold facts
  cases (r.get entity).2 <;> rfl

/-- Classifying a field leaves the catalog and the standard source as they are. -/
theorem classify_frame (r : Registry) (entity field dimension : String) :
    (r.classify entity field dimension).1.catalog = r.catalog ∧
      (r.classify entity field dimension).1.source = r.source := by
  have hext := extends_get r entity
  rcases r.classify_cases entity field dimension with ⟨f, heq⟩ | ⟨b, b', -, -, -, -, heq⟩
  · rw [heq]
    exact ⟨hext.catalog, hext.source⟩
  · rw [heq]
    exact ⟨hext.catalog, hext.source⟩

end Registry

end RowAccess
