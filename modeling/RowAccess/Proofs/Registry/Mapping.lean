import Mathlib.Data.List.Basic
import Mathlib.Data.List.Nodup
import Mathlib.Logic.Function.Basic
import Mathlib.Tactic.Common
import RowAccess.Access
import RowAccess.Proofs.Registry.Classify

/-!
# The mapping of fields to dimensions

A builder begins with the fields that its schema classifies; after that, fields are added one by one. Whichever way
a field came in, it is there once, the type declares it itself, and its kind can be classified. The fields are in the
order in which they were classified first.
-/

namespace RowAccess

/-- An element behind a list without repetitions, unless the list has it. -/
theorem eraseDups_concat {α : Type} [BEq α] [LawfulBEq α] (xs : List α) (x : α) [Decidable (x ∈ xs)] :
    (xs ++ [x]).eraseDups = if x ∈ xs then xs.eraseDups else xs.eraseDups ++ [x] := by
  rw [List.eraseDups_append, List.cons_removeAll, List.nil_removeAll]
  by_cases h : x ∈ xs
  · rw [if_pos h, if_neg (by simpa using h), List.eraseDups_nil, List.append_nil]
  · rw [if_neg h, if_pos (by simpa using h)]
    rfl

/-! ### Fields that can be classified -/

namespace Builder

/-- A field that can be classified is one that the schema describes, declared by its own type. -/
theorem classifiableField?_eq_ok {b : Builder} {field : String} {f : Field} :
    b.classifiableField? field = .ok f ↔
      b.schema.field? field = some f ∧ f.declaredBy = b.entity ∧ f.kind.isClassifiable = true := by
  unfold classifiableField?
  cases hs : b.schema.field? field with
  | none => exact ⟨nofun, fun h => nomatch h.1⟩
  | some g =>
    dsimp only
    rw [Option.some_inj]
    split
    next hforeign =>
      refine ⟨nofun, ?_⟩
      rintro ⟨rfl, hown, -⟩
      exact absurd hown hforeign
    next hown =>
      split
      next hkind =>
        refine ⟨nofun, ?_⟩
        rintro ⟨rfl, -, hable⟩
        simp [hable] at hkind
      next hkind =>
        refine ⟨fun h => ?_, fun h => congrArg _ h.1⟩
        obtain rfl := Except.ok.inj h
        exact ⟨rfl, not_not.mp hown, by simpa using hkind⟩

/-- The fault of a field that cannot be classified is one of registration. -/
theorem isRegistration_of_unable {b : Builder} {field : String} {f : Fault}
    (h : b.classifiableField? field = .error f) : f.isRegistration = true := by
  unfold classifiableField? at h
  split at h
  · obtain rfl := Except.error.inj h
    rfl
  · split at h
    · obtain rfl := Except.error.inj h
      rfl
    · split at h
      · obtain rfl := Except.error.inj h
        rfl
      · cases h

theorem isRegistration_of_classify {b : Builder} {field dimension : String} {f : Fault}
    (h : b.classify field dimension = .error f) : f.isRegistration = true := by
  have hstep := b.classify_step field dimension
  rw [h] at hstep
  cases hstep with
  | unable _ hunable => exact isRegistration_of_unable hunable
  | conflicting => rfl

end Builder

/-! ### Mappings -/

namespace Facts

/-- The classified fields with their dimensions, in order. -/
def labels (known : Facts) : List (String × String) := known.classified.map fun c => (c.field, c.dimension)

/-- Labels with one more at the end, unless it is among them. -/
def withLabel (labels : List (String × String)) (label : String × String) : List (String × String) :=
  if label ∈ labels then labels else labels ++ [label]

/-- No field is classified twice, and all are fields of classifiable kinds that the type declares itself. -/
structure Proper (known : Facts) : Prop where
  once : (known.classified.map Classified.field).Nodup
  declared : ∀ c ∈ known.classified, ∃ f, known.schema.field? c.field = some f ∧
    f.declaredBy = known.schema.entity ∧ f.kind = c.kind ∧ c.kind.isClassifiable = true

/-- What is known of a type after fields were classified with dimensions, in this order. -/
structure Mapped (known : Facts) (history : List (String × String)) : Prop where
  proper : known.Proper
  labels : known.labels = history.eraseDups

end Facts

namespace Builder

variable {b b' : Builder} {s : Schema} {field dimension : String} {history : List (String × String)} {f : Fault}

theorem mapped_new (s : Schema) : (new s).facts.Mapped [] := ⟨⟨List.nodup_nil, nofun⟩, rfl⟩

/-- A field comes behind the others with its dimension, unless it is there. -/
theorem labels_classify (h : b.classify field dimension = .ok b') :
    b'.facts.labels = Facts.withLabel b.facts.labels (field, dimension) := by
  have hstep := b.classify_step field dimension
  rw [h] at hstep
  unfold Facts.withLabel
  cases hstep with
  | repeated c held same =>
    have hin : (field, dimension) ∈ b.facts.labels := List.mem_map.mpr ⟨c, held, Prod.ext same.1 same.2⟩
    rw [if_pos hin]
  | added g able new =>
    have hnew : (field, dimension) ∉ b.facts.labels := fun hin => by
      obtain ⟨c, hc, heq⟩ := List.mem_map.mp hin
      exact new c hc (congrArg Prod.fst heq)
    rw [if_neg hnew]
    exact List.map_append

theorem mapped_classify (h : b.facts.Mapped history) (hc : b.classify field dimension = .ok b') :
    b'.schema = b.schema ∧ b'.facts.Mapped (history ++ [(field, dimension)]) := by
  have hlabels : b'.facts.labels = (history ++ [(field, dimension)]).eraseDups := by
    rw [labels_classify hc, h.labels, eraseDups_concat]
    unfold Facts.withLabel
    simp only [List.mem_eraseDups]
  have hstep := b.classify_step field dimension
  rw [hc] at hstep
  cases hstep with
  | repeated => exact ⟨rfl, h.proper, hlabels⟩
  | added g able new =>
    obtain ⟨hfield, hown, hkind⟩ := classifiableField?_eq_ok.mp able
    refine ⟨rfl, ⟨?_, fun c hc => ?_⟩, hlabels⟩
    · show ((b.classified ++ [_]).map Classified.field).Nodup
      rw [List.map_append, List.nodup_append]
      refine ⟨h.proper.once, List.nodup_singleton _, ?_⟩
      simpa using new
    · rcases List.mem_append.mp hc with hc | hc
      · exact h.proper.declared c hc
      · obtain rfl := List.mem_singleton.mp hc
        exact ⟨g, hfield, hown, rfl, hkind⟩

theorem mapped_foldlM :
    ∀ (fields : List (String × String)) {b : Builder} {history : List (String × String)}, b.facts.Mapped history →
      fields.foldlM (fun b e => b.classify e.1 e.2) b = .ok b' →
      b'.schema = b.schema ∧ b'.facts.Mapped (history ++ fields)
  | [], b, history, h, hb => by
      obtain rfl := Except.ok.inj hb
      exact ⟨rfl, by rwa [List.append_nil]⟩
  | e :: rest, b, history, h, hb => by
      rw [List.foldlM_cons] at hb
      cases hc : b.classify e.1 e.2 with
      | error f =>
        rw [hc] at hb
        cases hb
      | ok c =>
        rw [hc] at hb
        obtain ⟨hschema, hmapped⟩ := mapped_classify h hc
        obtain ⟨hschema', hmapped'⟩ := mapped_foldlM rest hmapped hb
        exact ⟨hschema'.trans hschema, by rwa [List.append_assoc] at hmapped'⟩

/-- A new builder has the fields that its schema classifies, in the order of the schema. -/
theorem mapped_ofSchema (h : ofSchema? s = .ok b) : b.schema = s ∧ b.facts.Mapped (declared s) :=
  mapped_foldlM (declared s) (mapped_new s) h

theorem isRegistration_of_foldlM :
    ∀ {fields : List (String × String)} {b : Builder},
      fields.foldlM (fun b e => b.classify e.1 e.2) b = .error f → f.isRegistration = true
  | [], _, h => by cases h
  | e :: rest, b, h => by
      rw [List.foldlM_cons] at h
      cases hc : b.classify e.1 e.2 with
      | error g =>
        rw [hc] at h
        obtain rfl := Except.error.inj h
        exact isRegistration_of_classify hc
      | ok c =>
        rw [hc] at h
        exact isRegistration_of_foldlM h

end Builder

/-- What a catalog cannot say of a type is a fault of registration. -/
theorem Catalog.isRegistration_of_facts {c : Catalog} {entity : String} {f : Fault}
    (h : c.facts entity = .error f) : f.isRegistration = true := by
  unfold facts at h
  cases hs : c.describe? entity with
  | none =>
    rw [hs] at h
    obtain rfl := Except.error.inj h
    rfl
  | some s =>
    rw [hs] at h
    dsimp only at h
    cases ho : Builder.ofSchema? s with
    | error g =>
      rw [ho] at h
      obtain rfl := Except.error.inj h
      exact Builder.isRegistration_of_foldlM ho
    | ok b =>
      rw [ho] at h
      cases h

theorem Catalog.mapped_facts {c : Catalog} {entity : String} {known : Facts} (h : c.facts entity = .ok known) :
    known.Mapped (Builder.declared known.schema) := by
  obtain ⟨s, b, -, hb, rfl⟩ := exists_builder h
  obtain ⟨rfl, hmapped⟩ := Builder.mapped_ofSchema hb
  exact hmapped

/-! ### Histories -/

/-- The fields of a type among classifications, with their dimensions. -/
def labelsOf (cs : List Classification) (entity : String) : List (String × String) :=
  (cs.filter fun c => c.entity = entity).map fun c => (c.field, c.dimension)

theorem labelsOf_append (cs ds : List Classification) (entity : String) :
    labelsOf (cs ++ ds) entity = labelsOf cs entity ++ labelsOf ds entity := by
  rw [labelsOf, List.filter_append, List.map_append]
  rfl

theorem labelsOf_eq_nil {cs : List Classification} {entity : String} (h : ∀ c ∈ cs, c.entity ≠ entity) :
    labelsOf cs entity = [] := by
  unfold labelsOf
  rw [List.filter_eq_nil_iff.mpr (by simpa using h), List.map_nil]

namespace Registry

variable {r r' : Registry} {log : List Classification} {entity : String} {f : Fault}

theorem isRegistration_of_facts (h : r.facts entity = .error f) : f.isRegistration = true := by
  rw [facts_eq] at h
  cases hb : r.builder? entity with
  | some b =>
    rw [hb] at h
    cases h
  | none =>
    rw [hb] at h
    exact Catalog.isRegistration_of_facts h

/-- What is known of types after some classifications: what their schemas classify, and then these. Every type among
them has a builder. -/
structure Mapped (r : Registry) (log : List Classification) : Prop where
  mapped : ∀ {entity known}, r.facts entity = .ok known →
    known.Mapped (Builder.declared known.schema ++ labelsOf log entity)
  found : ∀ c ∈ log, ∃ b, r.builder? c.entity = some b

theorem Mapped.labelsOf_of_none (h : r.Mapped log) (hnone : r.builder? entity = none) :
    labelsOf log entity = [] := by
  refine labelsOf_eq_nil fun c hc heq => ?_
  obtain ⟨b, hb⟩ := h.found c hc
  cases hnone.symm.trans (heq ▸ hb)

theorem mapped_new (c : Catalog) : (new c).Mapped [] := by
  refine ⟨fun {entity known} h => ?_, nofun⟩
  rw [facts_eq] at h
  rw [show labelsOf [] entity = [] from rfl, List.append_nil]
  exact Catalog.mapped_facts h

theorem Mapped.extends (h : r.Mapped log) (he : Extends r r') : r'.Mapped log := by
  refine ⟨fun hk => h.mapped (he.facts ▸ hk), fun c hc => ?_⟩
  obtain ⟨b, hb⟩ := h.found c hc
  obtain ⟨b', hb', -⟩ := he.kept hb
  exact ⟨b', hb'⟩

theorem Mapped.switched (h : r.Mapped log) (source : Option SourceRef) :
    ({ r with source } : Registry).Mapped log :=
  ⟨fun hk => h.mapped (facts_switched r source ▸ hk), h.found⟩

/-- A type that has a builder keeps it when it is described anew, and of the others nothing was classified. -/
theorem Mapped.register (h : r.Mapped log) (s : Schema) : (r.registerSchema s).Mapped log := by
  refine ⟨fun {entity known} hk => ?_, h.found⟩
  rw [facts_eq] at hk
  cases hb : r.builder? entity with
  | some b =>
    have hb' : (r.registerSchema s).builder? entity = some b := hb
    rw [hb'] at hk
    obtain rfl := Except.ok.inj hk
    exact h.mapped (facts_of_builder hb)
  | none =>
    have hb' : (r.registerSchema s).builder? entity = none := hb
    rw [hb'] at hk
    rw [h.labelsOf_of_none hb, List.append_nil]
    exact Catalog.mapped_facts hk

/-! ### Classifications -/

theorem Mapped.classify_error (h : r.Mapped log) (c : Classification) {r' : Registry}
    (hc : r.classify c.entity c.field c.dimension = (r', .error f)) : r'.Mapped log := by
  rcases r.classify_cases c.entity c.field c.dimension with ⟨g, hg⟩ | ⟨b, b', -, -, -, -, hg⟩
  · obtain ⟨rfl, -⟩ := Prod.mk.inj (hc.symm.trans hg)
    exact h.extends (extends_get r c.entity)
  · cases hc.symm.trans hg

theorem Mapped.classify_ok (h : r.Mapped log) (c : Classification) {r' : Registry}
    (hc : r.classify c.entity c.field c.dimension = (r', .ok ())) : r'.Mapped (log ++ [c]) := by
  rcases r.classify_cases c.entity c.field c.dimension with ⟨g, hg⟩ | ⟨b, b', hfound, hb, hentity, hb', hg⟩
  · cases hc.symm.trans hg
  · obtain ⟨rfl, -⟩ := Prod.mk.inj (hc.symm.trans hg)
    rw [hb] at hfound hentity
    have hbase := h.extends (extends_get r c.entity)
    generalize (r.get c.entity).1 = r₁ at hfound hbase
    obtain ⟨hschema, hmapped⟩ := Builder.mapped_classify (hbase.mapped (facts_of_builder hfound)) hb'
    have hput := builder?_put r₁ b'
    rw [hentity] at hput
    refine ⟨fun {e known} hk => ?_, fun d hd => ?_⟩
    · rw [labelsOf_append, ← List.append_assoc]
      by_cases he : e = c.entity
      · subst he
        rw [facts_of_builder (b := b') (by rw [hput, if_pos rfl, hfound, Option.map_some])] at hk
        obtain rfl := Except.ok.inj hk
        have hself : labelsOf [c] c.entity = [(c.field, c.dimension)] := by simp [labelsOf]
        rw [hself, show b'.facts.schema = b.facts.schema from hschema]
        exact hmapped
      · have hother : labelsOf [c] _ = [] := labelsOf_eq_nil fun k hk => List.mem_singleton.mp hk ▸ Ne.symm he
        rw [hother, List.append_nil]
        refine hbase.mapped (hk ▸ ?_)
        rw [facts_eq, facts_eq, hput, if_neg he]
        rfl
    · rw [hput]
      by_cases hd' : d.entity = c.entity
      · exact ⟨b', by rw [if_pos hd', hd', hfound, Option.map_some]⟩
      · rw [if_neg hd']
        refine hbase.found d ((List.mem_append.mp hd).resolve_right fun hin => hd' ?_)
        rw [List.mem_singleton.mp hin]

/-- Of classifications one after another, those before the first that fails. -/
def accepted : Registry → List Classification → List Classification
  | _, [] => []
  | r, c :: rest =>
      match r.classify c.entity c.field c.dimension with
      | (_, .error _) => []
      | (r, .ok ()) => c :: accepted r rest

/-- Where all can be classified, all are. -/
theorem accepted_of_ok : ∀ {cs : List Classification} {r : Registry}, (Access.classifyAll r cs).2 = .ok () →
    r.accepted cs = cs
  | [], _, _ => rfl
  | c :: rest, r, h => by
      unfold Access.classifyAll at h
      unfold accepted
      generalize r.classify c.entity c.field c.dimension = out at h
      rcases out with ⟨r', f | _⟩
      · cases h
      · exact congrArg (c :: ·) (accepted_of_ok h)

theorem mapped_classifyAll :
    ∀ (cs : List Classification) {r : Registry} {log : List Classification}, r.Mapped log →
      (Access.classifyAll r cs).1.Mapped (log ++ r.accepted cs)
  | [], r, log, h => by
      show r.Mapped (log ++ [])
      rwa [List.append_nil]
  | c :: rest, r, log, h => by
      unfold Access.classifyAll accepted
      cases hc : r.classify c.entity c.field c.dimension with
      | mk r' result =>
        cases result with
        | error f =>
          dsimp only
          rw [List.append_nil]
          exact h.classify_error c hc
        | ok _ =>
          have hrest := mapped_classifyAll rest (h.classify_ok c hc)
          rwa [List.append_assoc] at hrest

end Registry

end RowAccess
