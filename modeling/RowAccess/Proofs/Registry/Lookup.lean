import Mathlib.Data.List.Basic
import Mathlib.Tactic.Common
import RowAccess.Proofs.Registry.Fresh

/-!
# Builders in a registry

What looking a builder up, making it and putting it back do to a registry. `Registry.Extends` is the
relation that a request leaves behind: builders may have been made and slots may have changed, but what
is known of every type is the same.
-/

namespace RowAccess

/-! ### What classifying a field can do -/

namespace Builder

/-- Classifying a field can do nothing, because the field has the dimension already; put the field behind the others;
or fail, because the field cannot be classified or has another dimension. -/
inductive ClassifyStep (b : Builder) (field dimension : String) : Except Fault Builder → Prop
  | repeated (c : Classified) (held : c ∈ b.classified) (same : c.field = field ∧ c.dimension = dimension) :
      ClassifyStep b field dimension (.ok b)
  | added (f : Field) (able : b.classifiableField? field = .ok f) (new : ∀ c ∈ b.classified, c.field ≠ field) :
      ClassifyStep b field dimension
        (.ok { b with
          classified := b.classified ++ [⟨field, dimension, f.kind⟩]
          own := b.own.invalidate })
  | unable (f : Fault) (unable : b.classifiableField? field = .error f) : ClassifyStep b field dimension (.error f)
  | conflicting (c : Classified) (held : c ∈ b.classified) (same : c.field = field)
      (other : c.dimension ≠ dimension) :
      ClassifyStep b field dimension
        (.error (.conflictingClassification b.entity field c.dimension dimension))

theorem classify_step (b : Builder) (field dimension : String) :
    ClassifyStep b field dimension (b.classify field dimension) := by
  unfold classify
  cases hf : b.classifiableField? field with
  | error f => exact .unable f hf
  | ok f =>
    simp only [bind, Except.bind]
    split
    next c hc =>
      have hsame : c.field = field := by simpa using List.find?_some hc
      have hheld := List.mem_of_find?_eq_some hc
      split
      next heq => exact .repeated c hheld ⟨hsame, heq⟩
      next hne => exact .conflicting c hheld hsame hne
    next hnone => exact .added f hf fun c hc heq => by simpa [heq] using List.find?_eq_none.mp hnone c hc

end Builder

/-- Classifying a field that has the dimension already changes nothing; a new one is put behind the others, and what was
built of the own fields is forgotten. -/
theorem Builder.classify_cases {b b' : Builder} {field dimension : String}
    (h : b.classify field dimension = .ok b') :
    b' = b ∨ ∃ f, b.classifiableField? field = .ok f ∧
      b' = { b with
        classified := b.classified ++ [⟨field, dimension, f.kind⟩]
        own := b.own.invalidate } := by
  have hstep := b.classify_step field dimension
  rw [h] at hstep
  cases hstep with
  | repeated => exact .inl rfl
  | added f able new => exact .inr ⟨f, able, rfl⟩

/-- A schema stays what it is when a field is classified. -/
theorem Builder.classify_schema {b b' : Builder} {field dimension : String}
    (h : b.classify field dimension = .ok b') : b'.schema = b.schema := by
  rcases classify_cases h with rfl | ⟨f, -, rfl⟩ <;> rfl

/-! ### Making builders -/

/-- A builder that was never asked for a restriction. -/
structure Builder.Unused (s : Schema) (b : Builder) : Prop where
  schema : b.schema = s
  own : b.own = .empty
  inclusive : b.inclusive = .empty

theorem Builder.Unused.classify {s : Schema} {b b' : Builder} {field dimension : String}
    (hb : Unused s b) (h : b.classify field dimension = .ok b') : Unused s b' := by
  rcases classify_cases h with rfl | ⟨f, -, rfl⟩
  · exact hb
  · refine ⟨hb.schema, ?_, hb.inclusive⟩
    rw [hb.own]
    rfl

theorem Builder.unused_of_foldlM {s : Schema} {b' : Builder} :
    ∀ {fields : List (String × String)} {b : Builder}, Unused s b →
      fields.foldlM (fun b e => b.classify e.1 e.2) b = .ok b' → Unused s b'
  | [], b, hb, h => by cases h; exact hb
  | e :: rest, b, hb, h => by
      rw [List.foldlM_cons] at h
      cases hc : b.classify e.1 e.2 with
      | error f => rw [hc] at h; cases h
      | ok c => rw [hc] at h; exact unused_of_foldlM (hb.classify hc) h

theorem Builder.unused_ofSchema {s : Schema} {b : Builder} (h : ofSchema? s = .ok b) :
    Unused s b :=
  unused_of_foldlM ⟨rfl, rfl, rfl⟩ h

/-- What a catalog says of a type for which there is no builder yet. -/
def Catalog.facts (c : Catalog) (entity : String) : Except Fault Facts :=
  match c.describe? entity with
  | none => .error (.unknownEntityType entity)
  | some s => (Builder.ofSchema? s).map Builder.facts

theorem Catalog.describe?_entity {c : Catalog} {s : Schema} {entity : String}
    (h : c.describe? entity = some s) : s.entity = entity := by
  simpa using List.find?_some h

/-- A builder that is made of what a catalog says of a type is a builder of that type. -/
theorem Builder.entity_of_described {c : Catalog} {s : Schema} {b : Builder} {entity : String}
    (hs : c.describe? entity = some s) (hb : ofSchema? s = .ok b) : b.entity = entity := by
  rw [Builder.entity, (unused_ofSchema hb).schema, Catalog.describe?_entity hs]

/-- What a catalog says of a type is what the new builder of its schema knows. -/
theorem Catalog.exists_builder {c : Catalog} {entity : String} {known : Facts} (h : c.facts entity = .ok known) :
    ∃ s b, c.describe? entity = some s ∧ Builder.ofSchema? s = .ok b ∧ known = b.facts := by
  unfold facts at h
  cases hs : c.describe? entity with
  | none =>
    rw [hs] at h
    cases h
  | some s =>
    rw [hs] at h
    dsimp only at h
    cases hb : Builder.ofSchema? s with
    | error f =>
      rw [hb] at h
      cases h
    | ok b =>
      rw [hb] at h
      exact ⟨s, b, rfl, hb, (Except.ok.inj h).symm⟩

/-- A catalog says something of the types that it describes only. -/
theorem Catalog.exists_of_facts {c : Catalog} {entity : String} {k : Facts} (h : c.facts entity = .ok k) :
    ∃ s ∈ c, s.entity = entity := by
  obtain ⟨s, -, hs, -⟩ := exists_builder h
  exact ⟨s, List.mem_of_find?_eq_some hs, describe?_entity hs⟩

namespace Registry

variable {r r' r'' : Registry} {entity : String} {b : Builder}

theorem builder?_entity (h : r.builder? entity = some b) : b.entity = entity := by
  simpa using List.find?_some h

/-! ### Putting a builder back -/

theorem builder?_put (r : Registry) (b : Builder) (entity : String) :
    (r.put b).builder? entity =
      if entity = b.entity then (r.builder? entity).map fun _ => b else r.builder? entity := by
  unfold put builder?
  induction r.builders with
  | nil => simp
  | cons c rest ih =>
    rw [List.map_cons, List.find?_cons, List.find?_cons, ih]
    by_cases hc : c.entity = b.entity
    · rw [if_pos hc, hc]
      by_cases he : entity = b.entity
      · simp [he]
      · simp [he, Ne.symm he]
    · rw [if_neg hc]
      by_cases he : entity = b.entity
      · have hce : c.entity ≠ entity := fun h => hc (h.trans he)
        simp [he, hc]
      · simp [he]

/-! ### Getting a builder -/

/-- A builder is found, or it cannot be made, or it is made from the catalog's description. -/
theorem get_cases (r : Registry) (entity : String) :
    (∃ b, r.builder? entity = some b ∧ r.get entity = (r, .ok b)) ∨
    (∃ f, r.builder? entity = none ∧ r.catalog.facts entity = .error f ∧
      r.get entity = (r, .error f)) ∨
    (∃ s b, r.builder? entity = none ∧ r.catalog.describe? entity = some s ∧
      Builder.ofSchema? s = .ok b ∧
      r.get entity = ({ r with builders := r.builders ++ [b] }, .ok b)) := by
  unfold get Catalog.facts
  cases hb : r.builder? entity with
  | some b => exact .inl ⟨b, rfl, rfl⟩
  | none =>
    cases hs : r.catalog.describe? entity with
    | none => exact .inr (.inl ⟨_, rfl, rfl, rfl⟩)
    | some s =>
      dsimp only
      cases ho : Builder.ofSchema? s with
      | error f => exact .inr (.inl ⟨f, rfl, rfl, rfl⟩)
      | ok b => exact .inr (.inr ⟨s, b, rfl, rfl, ho, rfl⟩)

theorem builder?_append (hnone : r.builder? b.entity = none) (entity : String) :
    ({ r with builders := r.builders ++ [b] } : Registry).builder? entity =
      if entity = b.entity then some b else r.builder? entity := by
  unfold builder? at hnone ⊢
  rw [List.find?_append]
  by_cases he : entity = b.entity
  · rw [if_pos he, he, hnone]
    simp
  · rw [if_neg he]
    simp [Ne.symm he]

/-- What is known of a type is what its builder holds, or else what the catalog says. -/
theorem facts_eq (r : Registry) (entity : String) :
    r.facts entity =
      match r.builder? entity with
      | some b => .ok b.facts
      | none => r.catalog.facts entity := by
  unfold facts
  rcases get_cases r entity with ⟨b, hb, hg⟩ | ⟨f, hb, hc, hg⟩ | ⟨s, b, hb, hs, ho, hg⟩
  · rw [hg, hb]
    rfl
  · rw [hg, hb, hc]
    rfl
  · rw [hg, hb]
    simp only [Catalog.facts, hs, ho]

theorem facts_of_builder (h : r.builder? entity = some b) : r.facts entity = .ok b.facts := by
  rw [facts_eq, h]

/-- The standard source has no part in what is known. -/
theorem facts_switched (r : Registry) (source : Option SourceRef) :
    ({ r with source } : Registry).facts = r.facts := by
  funext e
  rw [facts_eq, facts_eq]
  rfl

/-! ### What requests leave as it is -/

/-- A registry that went on without a field classified or a type described. -/
structure Extends (r r' : Registry) : Prop where
  catalog : r'.catalog = r.catalog
  source : r'.source = r.source
  facts : r'.facts = r.facts
  kept : ∀ {entity b}, r.builder? entity = some b →
    ∃ b', r'.builder? entity = some b' ∧ b'.facts = b.facts

theorem Extends.refl (r : Registry) : Extends r r :=
  ⟨rfl, rfl, rfl, fun h => ⟨_, h, rfl⟩⟩

theorem Extends.trans (h : Extends r r') (h' : Extends r' r'') : Extends r r'' where
  catalog := h'.catalog.trans h.catalog
  source := h'.source.trans h.source
  facts := h'.facts.trans h.facts
  kept hb := by
    obtain ⟨b', hb', hf'⟩ := h.kept hb
    obtain ⟨b'', hb'', hf''⟩ := h'.kept hb'
    exact ⟨b'', hb'', hf''.trans hf'⟩

/-- Putting back a builder whose slots alone have changed. -/
theorem extends_put {c : Builder} (h : r.builder? b.entity = some c) (hf : b.facts = c.facts)
    (serial : Nat) : Extends r ({ r with serial }.put b) := by
  have hlook : ∀ e, ({ r with serial }.put b).builder? e =
      if e = b.entity then (r.builder? e).map fun _ => b else r.builder? e :=
    fun e => builder?_put { r with serial } b e
  refine ⟨rfl, rfl, ?_, ?_⟩
  · funext e
    rw [facts_eq, facts_eq, hlook]
    by_cases he : e = b.entity
    · subst he
      rw [if_pos rfl, h, Option.map_some]
      exact congrArg Except.ok hf
    · rw [if_neg he]
      rfl
  · intro e c' hc'
    by_cases he : e = b.entity
    · subst he
      obtain rfl : c = c' := Option.some.inj (h.symm.trans hc')
      exact ⟨b, by rw [hlook, if_pos rfl, h, Option.map_some], hf⟩
    · exact ⟨c', by rw [hlook, if_neg he, hc'], rfl⟩

theorem extends_get (r : Registry) (entity : String) : Extends r (r.get entity).1 := by
  rcases get_cases r entity with ⟨b, hb, hg⟩ | ⟨f, hb, hc, hg⟩ | ⟨s, b, hb, hs, ho, hg⟩
  · rw [hg]
    exact .refl r
  · rw [hg]
    exact .refl r
  · rw [hg]
    obtain rfl := Builder.entity_of_described hs ho
    refine ⟨rfl, rfl, ?_, ?_⟩
    · funext e
      rw [facts_eq, facts_eq, builder?_append hb]
      by_cases he : e = b.entity
      · rw [if_pos he, he, hb]
        simp only [Catalog.facts, hs, ho]
        rfl
      · rw [if_neg he]
    · intro e c hc
      refine ⟨c, ?_, rfl⟩
      rw [builder?_append hb, if_neg, hc]
      rintro rfl
      rw [hb] at hc
      cases hc

theorem extends_of_get {result : Except Fault Builder} (hg : r.get entity = (r', result)) : Extends r r' := by
  have hext := extends_get r entity
  rwa [hg] at hext

/-- A builder that was got is in the registry. -/
theorem get_ok (h : r.get entity = (r', .ok b)) : r'.builder? entity = some b := by
  rcases get_cases r entity with ⟨c, hc, hg⟩ | ⟨f, hb, hc, hg⟩ | ⟨s, c, hc, hs, ho, hg⟩
  · obtain ⟨rfl, hcb⟩ := Prod.mk.inj (hg.symm.trans h)
    rw [hc, Except.ok.inj hcb]
  · cases (Prod.mk.inj (hg.symm.trans h)).2
  · obtain ⟨rfl, hcb⟩ := Prod.mk.inj (hg.symm.trans h)
    obtain rfl := Except.ok.inj hcb
    obtain rfl := Builder.entity_of_described hs ho
    rw [builder?_append hc, if_pos rfl]

theorem get_found (hb : r.builder? entity = some b) : r.get entity = (r, .ok b) := by
  rw [get, hb]

/-- Nothing is known of a type exactly if it has no builder and none can be made. -/
theorem get_error {f : Fault} (h : r.facts entity = .error f) :
    r.builder? entity = none ∧ r.get entity = (r, .error f) := by
  rcases get_cases r entity with ⟨b, hb, hg⟩ | ⟨g, hb, hc, hg⟩ | ⟨s, b, hb, hs, ho, hg⟩
  · cases h.symm.trans (facts_of_builder hb)
  · refine ⟨hb, ?_⟩
    rw [facts, hg] at h
    rw [hg, Except.error.inj h]
  · rw [facts, hg] at h
    cases h

theorem facts_of_get {f : Fault} (h : (r.get entity).2 = .error f) : r.facts entity = .error f := by
  rw [facts, h]
  rfl

/-- Classifying a field of a type fails, with no more than a builder made, or puts a builder back that went through
`Builder.classify`. -/
theorem classify_cases (r : Registry) (entity field dimension : String) :
    (∃ f, r.classify entity field dimension = ((r.get entity).1, .error f)) ∨
      ∃ b b', (r.get entity).1.builder? b.entity = some b ∧ b.entity = entity ∧ b'.entity = b.entity ∧
        b.classify field dimension = .ok b' ∧
        r.classify entity field dimension = ((r.get entity).1.put b', .ok ()) := by
  unfold classify
  cases hg : r.get entity with
  | mk r₁ result =>
    cases result with
    | error f => exact .inl ⟨f, rfl⟩
    | ok b =>
      have hb := get_ok hg
      obtain rfl := builder?_entity hb
      dsimp only
      cases hc : b.classify field dimension with
      | error f => exact .inl ⟨f, rfl⟩
      | ok b' => exact .inr ⟨b, b', hb, rfl, congrArg Schema.entity (Builder.classify_schema hc), hc, rfl⟩

theorem ownRestriction_of_get_error {f : Fault} (hg : r.get entity = (r', .error f)) (view : SourceView) :
    r.ownRestriction view entity = (r', .error f) := by
  unfold ownRestriction
  rw [hg]

/-- A request for own fields asks the builder of its type. -/
theorem ownRestriction_of_get (hg : r.get entity = (r', .ok b)) (view : SourceView) :
    r.ownRestriction view entity = ((r'.resolveOwn view b).1, (r'.resolveOwn view b).2.map Prod.fst) := by
  unfold ownRestriction
  rw [hg]
  dsimp only
  generalize r'.resolveOwn view b = out
  obtain ⟨r₂, result⟩ := out
  cases result <;> rfl

/-- A request for own fields fails because there is no builder to be had, or asks the builder of its type. -/
theorem ownRestriction_cases (r : Registry) (view : SourceView) (entity : String) :
    (∃ f, r.get entity = (r, .error f) ∧ r.ownRestriction view entity = (r, .error f)) ∨
      ∃ r₁ b, r.get entity = (r₁, .ok b) ∧ r₁.builder? b.entity = some b ∧ b.entity = entity ∧
        r.ownRestriction view entity = ((r₁.resolveOwn view b).1, (r₁.resolveOwn view b).2.map Prod.fst) := by
  cases hg : r.get entity with
  | mk r₁ result =>
    cases result with
    | error f =>
      have hsame := (get_error (facts_of_get (congrArg Prod.snd hg))).2
      obtain rfl : r₁ = r := congrArg Prod.fst (hg.symm.trans hsame)
      exact .inl ⟨f, rfl, ownRestriction_of_get_error hg view⟩
    | ok b =>
      have hb := get_ok hg
      have hentity := builder?_entity hb
      exact .inr ⟨r₁, b, rfl, by rw [hentity, hb], hentity, ownRestriction_of_get hg view⟩

/-- A request for a type and its ancestors is a traversal from a type at which nothing is being visited. -/
theorem inclusiveRestriction_eq_resolve (r : Registry) (view : SourceView) (entity : String) :
    r.inclusiveRestriction view entity =
      ((resolve view (r.typeBound + 1) ⟨r, []⟩ entity).1.registry,
        (resolve view (r.typeBound + 1) ⟨r, []⟩ entity).2.map Builder.Resolved.restriction) := by
  unfold inclusiveRestriction
  generalize resolve view (r.typeBound + 1) ⟨r, []⟩ entity = out
  obtain ⟨t, result⟩ := out
  cases result <;> rfl

end Registry

end RowAccess
