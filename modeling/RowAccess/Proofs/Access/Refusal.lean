import Mathlib.Data.List.Basic
import Mathlib.Tactic.Common
import RowAccess.Proofs.Access.Mapping
import RowAccess.Proofs.Registry.Distinct

/-!
# Classifications and builders that are refused

A classification that is refused, or that was made before, leaves an access control just as it was: whatever is done
afterwards has the answers that it would have had without. A type of which no builder can be made has none afterwards
either, whatever else is done; the next action that needs its builder tries again, with the description that the
catalog has by then.
-/

namespace RowAccess

namespace Action

/-- The type whose builder an action begins with. -/
def type? : Action → Option String
  | .classify entity _ _ => some entity
  | .builder entity => some entity
  | .ownRestriction _ entity => some entity
  | .inclusiveRestriction _ entity => some entity
  | .filter _ entity _ => some entity
  | _ => none

/-- An action that begins with a builder classifies a field, gets the builder, or is a request. -/
theorem type?_cases {action : Action} {entity : String} (h : action.type? = some entity) :
    (∃ field dimension, action = .classify entity field dimension) ∨ action = .builder entity ∨
      ∃ source, action.request? = some (source, entity) := by
  cases action with
  | classify entity' field dimension =>
    obtain rfl := Option.some.inj h
    exact .inl ⟨field, dimension, rfl⟩
  | builder entity' =>
    obtain rfl := Option.some.inj h
    exact .inr (.inl rfl)
  | ownRestriction source entity' =>
    obtain rfl := Option.some.inj h
    exact .inr (.inr ⟨source, rfl⟩)
  | inclusiveRestriction source entity' =>
    obtain rfl := Option.some.inj h
    exact .inr (.inr ⟨source, rfl⟩)
  | filter source entity' rows =>
    obtain rfl := Option.some.inj h
    exact .inr (.inr ⟨source, rfl⟩)
  | _ => cases h

/-- An action that describes a type anew. -/
def describes (entity : String) : Action → Prop
  | .register s => s.entity = entity
  | _ => False

end Action

/-! ### Descriptions -/

theorem Catalog.describe?_register (c : Catalog) (s : Schema) (entity : String) :
    (c.register s).describe? entity = if entity = s.entity then some s else c.describe? entity := by
  unfold describe?
  induction c with
  | nil => by_cases h : entity = s.entity <;> simp [register, h, Ne.symm]
  | cons t rest ih =>
    unfold register
    by_cases ht : t.entity = s.entity
    · rw [if_pos ht, List.find?_cons, List.find?_cons, ht]
      by_cases h : entity = s.entity <;> simp [h, Ne.symm]
    · rw [if_neg ht, List.find?_cons, List.find?_cons, ih]
      by_cases h : entity = s.entity
      · have hne : t.entity ≠ entity := fun heq => ht (heq.trans h)
        simp [h, ht]
      · simp [h]

theorem Catalog.facts_schema {c : Catalog} {entity : String} {known : Facts} (h : c.facts entity = .ok known) :
    c.describe? entity = some known.schema := by
  obtain ⟨s, b, hs, hb, rfl⟩ := exists_builder h
  rw [hs, ← (Builder.unused_ofSchema hb).schema]
  rfl

namespace Registry

variable {r r' : Registry} {entity e field dimension : String} {f : Fault} {b : Builder}

/-- Classifying fields tells nothing of a type of which nothing is known. -/
theorem facts_error_classify (h : r.facts e = .error f) (entity field dimension : String) :
    (r.classify entity field dimension).1.facts e = .error f := by
  rcases r.facts_classify_cases entity field dimension with heq | ⟨known, known', hk, -, heq⟩
  · rw [heq, h]
  · have hne : e ≠ entity := by
      rintro rfl
      cases h.symm.trans hk
    rw [heq, Function.update_of_ne hne, h]

theorem facts_error_register (h : r.facts entity = .error f) {s : Schema} (hs : s.entity ≠ entity) :
    (r.registerSchema s).facts entity = .error f := by
  have hnone := (get_error h).1
  have hnone' : (r.registerSchema s).builder? entity = none := hnone
  rw [facts_eq, hnone] at h
  rw [facts_eq, hnone']
  unfold Catalog.facts registerSchema at *
  dsimp only at h ⊢
  rwa [Catalog.describe?_register, if_neg hs.symm]

/-- All that is known of a type is told by the description that the catalog has of it. -/
def Current (r : Registry) (entity : String) : Prop :=
  ∀ known, r.facts entity = .ok known → r.catalog.describe? entity = some known.schema

theorem current_of_none (h : r.builder? entity = none) : r.Current entity := by
  intro known hk
  rw [facts_eq, h] at hk
  exact Catalog.facts_schema hk

theorem Current.extends (h : r.Current entity) (he : Extends r r') : r'.Current entity := by
  intro known hk
  rw [he.catalog]
  exact h known (he.facts ▸ hk)

theorem Current.classify (h : r.Current e) (entity field dimension : String) :
    (r.classify entity field dimension).1.Current e := by
  intro known hknown
  rw [(classify_frame r entity field dimension).1]
  rcases r.facts_classify_cases entity field dimension with heq | ⟨before, after, hbefore, hafter, heq⟩
  · exact h known (heq ▸ hknown)
  · rw [heq] at hknown
    by_cases he : e = entity
    · subst he
      rw [Function.update_self] at hknown
      obtain rfl := Except.ok.inj hknown
      rw [Facts.schema_classify hafter]
      exact h before hbefore
    · rw [Function.update_of_ne he] at hknown
      exact h known hknown

/-! ### A builder that can be made -/

theorem resolve_of_get {r₁ : Registry} (hg : r.get entity = (r₁, .ok b)) (view : SourceView) (fuel : Nat)
    (visiting : List String) :
    resolve view (fuel + 1) ⟨r, visiting⟩ entity = resolve view (fuel + 1) ⟨r₁, visiting⟩ entity := by
  unfold resolve
  dsimp only
  rw [hg, get_found (get_ok hg)]

/-- A request goes on from the registry in which its type has a builder. -/
theorem course_ownRestriction_of_get {r₁ : Registry} (hg : r.get entity = (r₁, .ok b)) (view : SourceView) :
    ∃ log, Course r₁ log (r.ownRestriction view entity).1 := by
  have hsame : r.ownRestriction view entity = r₁.ownRestriction view entity :=
    (ownRestriction_of_get hg view).trans (ownRestriction_of_get (get_found (get_ok hg)) view).symm
  exact ⟨_, hsame ▸ course_ownRestriction r₁ view entity⟩

theorem course_inclusiveRestriction_of_get {r₁ : Registry} (hg : r.get entity = (r₁, .ok b)) (view : SourceView) :
    ∃ log, Course r₁ log (r.inclusiveRestriction view entity).1 := by
  refine ⟨consultations view (r.typeBound + 1) ⟨r₁, []⟩ entity, ?_⟩
  rw [inclusiveRestriction_eq_resolve, resolve_of_get hg]
  exact ((walks_resolve view (r.typeBound + 1)).passage ⟨r₁, []⟩ entity List.not_mem_nil).course

theorem course_classify_of_get {r₁ : Registry} (hg : r.get entity = (r₁, .ok b)) (field dimension : String) :
    Course r₁ [] (r.classify entity field dimension).1 := by
  have hsame : r.classify entity field dimension = r₁.classify entity field dimension := by
    unfold Registry.classify
    rw [hg, get_found (get_ok hg)]
  exact hsame ▸ course_classify r₁ entity field dimension

end Registry

namespace Access

open Registry (Course)

variable {a : Access} {line : Nat} {action : Action} {entity field dimension : String} {f : Fault} {b : Builder}
  {s : SourceRef}

/-! ### Classifications without a trace -/

theorem RegistryStep.distinct {r : Registry} (hd : a.registry.Distinct) (h : RegistryStep a line action r) :
    r.Distinct := by
  have hinv := Registry.invariant_distinct
  cases h with
  | classified hc =>
    induction hc with
    | refl => exact hd
    | classify _ entity field dimension ih => exact hinv.classify ih entity field dimension
  | registered s => exact hd
  | got entity => exact hinv.get entity hd
  | switched s => exact hd
  | own _ entity => exact hinv.ownRestriction hd _ entity
  | inclusive _ entity => exact hinv.inclusiveRestriction hd _ entity

theorem registryDistinct_run : ∀ (acts : List (Nat × Action)) {a : Access}, a.registry.Distinct →
    (a.run acts).1.registry.Distinct
  | [], _, h => h
  | (line, action) :: rest, a, h => registryDistinct_run rest (RegistryStep.distinct h (perform_registry a line action))

/-! ### Builders that cannot be made -/

/-- An action that is a request has a source to go to. -/
def HasSource (a : Access) (action : Action) : Prop :=
  ∀ source entity, action.request? = some (source, entity) → ∃ s, a.sourceOr source = .ok s

/-- An action that begins with a builder that cannot be made fails with the fault of making it, and changes nothing. -/
theorem perform_of_get_error (hg : a.registry.get entity = (a.registry, .error f))
    (htype : action.type? = some entity) (hsource : a.HasSource action) (line : Nat) :
    a.perform line action = (a, .error f) := by
  rcases Action.type?_cases htype with ⟨field, dimension, rfl⟩ | rfl | ⟨source, hrequest⟩
  · have hclassify : a.registry.classify entity field dimension = (a.registry, .error f) := by
      unfold Registry.classify
      rw [hg]
    unfold perform
    simp only [hclassify]
    rfl
  · unfold perform
    simp only [hg]
    rfl
  · obtain ⟨s, hs⟩ := hsource source entity hrequest
    obtain ⟨ask, hask, tell, hperform⟩ := exists_ask hrequest
    have hasked : ask a.registry (a.view line s) = (a.registry, .error f) := by
      cases hask with
      | own => exact Registry.ownRestriction_of_get_error hg _
      | inclusive =>
        dsimp only
        unfold Registry.inclusiveRestriction Registry.resolve
        dsimp only
        rw [hg]
    rw [hperform, request_of_source hs, hasked]
    rfl

/-- An action that begins with a builder that can be made goes on from where it is made. -/
theorem course_of_get {r₁ : Registry} (hg : a.registry.get entity = (r₁, .ok b)) (htype : action.type? = some entity)
    (hsource : a.HasSource action) (line : Nat) : ∃ log, Course r₁ log (a.perform line action).1.registry := by
  rcases Action.type?_cases htype with ⟨field, dimension, rfl⟩ | rfl | ⟨source, hrequest⟩
  · exact ⟨[], Registry.course_classify_of_get hg field dimension⟩
  · refine ⟨[], ?_⟩
    show Course r₁ [] (a.registry.get entity).1
    rw [hg]
    exact .refl
  · obtain ⟨s, hs⟩ := hsource source entity hrequest
    obtain ⟨ask, hask, tell, hperform⟩ := exists_ask hrequest
    rw [hperform, request_of_source hs]
    cases hask with
    | own => exact Registry.course_ownRestriction_of_get hg _
    | inclusive => exact Registry.course_inclusiveRestriction_of_get hg _

/-- Nothing is known of a type until it is described anew. -/
theorem facts_error_perform (h : a.registry.facts entity = .error f) (hnot : ¬ action.describes entity) (line : Nat) :
    (a.perform line action).1.registry.facts entity = .error f := by
  have hstep := perform_registry a line action
  generalize (a.perform line action).1.registry = r at hstep
  cases hstep with
  | classified hc =>
    induction hc with
    | refl => exact h
    | classify _ e field dimension ih => exact Registry.facts_error_classify ih e field dimension
  | registered s haction =>
    subst haction
    exact Registry.facts_error_register h hnot
  | got e => rw [(Registry.extends_get _ e).facts, h]
  | switched s => rw [Registry.facts_switched, h]
  | own _ e => rw [(Registry.extends_ownRestriction _ _ e).facts, h]
  | inclusive _ e => rw [(Registry.extends_inclusiveRestriction _ _ e).facts, h]

theorem facts_error_run :
    ∀ (acts : List (Nat × Action)) {a : Access}, a.registry.facts entity = .error f →
      (∀ step ∈ acts, ¬ step.2.describes entity) → (a.run acts).1.registry.facts entity = .error f
  | [], _, h, _ => h
  | _ :: rest, _, h, hnot =>
      facts_error_run rest (facts_error_perform h (hnot _ List.mem_cons_self) _)
        fun step hstep => hnot step (List.mem_cons_of_mem _ hstep)

/-- A builder that an action makes is of the description that the catalog has then. -/
theorem describe?_of_made (hnone : a.registry.builder? entity = none)
    (hb : (a.perform line action).1.registry.builder? entity = some b) :
    a.registry.catalog.describe? entity = some b.schema := by
  have hcurrent := Registry.current_of_none hnone
  have hstep := perform_registry a line action
  generalize (a.perform line action).1.registry = r at hstep hb
  have hextends : ∀ {r'}, Registry.Extends a.registry r' → r'.builder? entity = some b →
      a.registry.catalog.describe? entity = some b.schema := by
    intro r' he hb'
    rw [← he.catalog]
    exact hcurrent.extends he b.facts (Registry.facts_of_builder hb')
  cases hstep with
  | classified hc =>
    have hboth : r.catalog = a.registry.catalog ∧ r.Current entity := by
      clear hb
      induction hc with
      | refl => exact ⟨rfl, hcurrent⟩
      | classify _ e field dimension ih =>
        exact ⟨(Registry.classify_frame _ e field dimension).1.trans ih.1, ih.2.classify e field dimension⟩
    rw [← hboth.1]
    exact hboth.2 b.facts (Registry.facts_of_builder hb)
  | registered s => cases hnone.symm.trans hb
  | got e => exact hextends (Registry.extends_get _ e) hb
  | switched s => cases hnone.symm.trans hb
  | own _ e => exact hextends (Registry.extends_ownRestriction _ _ e) hb
  | inclusive _ e => exact hextends (Registry.extends_inclusiveRestriction _ _ e) hb

/-- A builder that there is after a run, and was not before, is of the description that the catalog had when it was
made. -/
theorem exists_description :
    ∀ (acts : List (Nat × Action)) {a : Access}, a.registry.builder? entity = none →
      (a.run acts).1.registry.builder? entity = some b →
      ∃ before step after, acts = before ++ step :: after ∧ (a.run before).1.registry.builder? entity = none ∧
        (a.run before).1.registry.catalog.describe? entity = some b.schema
  | [], _, hnone, hb => by cases hnone.symm.trans hb
  | (line, action) :: rest, a, hnone, hb => by
      cases hmade : (a.perform line action).1.registry.builder? entity with
      | none =>
        obtain ⟨before, step, after, hrest, hbefore⟩ := exists_description rest hmade hb
        exact ⟨(line, action) :: before, step, after, congrArg _ hrest, hbefore⟩
      | some b₁ =>
        obtain ⟨b', hb', hlearns⟩ := (course_run (a.perform line action).1 rest).learns hmade
        obtain rfl := Option.some.inj (hb'.symm.trans hb)
        have hschema : b₁.schema = b'.schema := hlearns.schema.symm
        exact ⟨[], (line, action), rest, rfl, hnone, hschema ▸ describe?_of_made hnone hmade⟩

/-! ### What is refused leaves nothing -/

theorem perform_classify (a : Access) (line : Nat) (entity field dimension : String) :
    a.perform line (.classify entity field dimension) =
      ({ a with registry := (a.registry.classify entity field dimension).1 },
        (a.registry.classify entity field dimension).2.map fun _ => .done) := rfl

/-- The faults of a classification that is refused. -/
theorem fault_of_classify {b : Builder} (h : b.classify field dimension = .error f) :
    f = .unknownField b.entity field ∨ (∃ other, f = .foreignField b.entity field other) ∨
      (∃ kind, f = .unsupportedFieldKind b.entity field kind Kind.classifiableNames) ∨
      ∃ other, f = .conflictingClassification b.entity field other dimension := by
  have hstep := b.classify_step field dimension
  rw [h] at hstep
  cases hstep with
  | unable _ hunable =>
    unfold Builder.classifiableField? at hunable
    split at hunable
    · exact .inl (Except.error.inj hunable).symm
    · split at hunable
      · exact .inr (.inl ⟨_, (Except.error.inj hunable).symm⟩)
      · split at hunable
        · exact .inr (.inr (.inl ⟨_, (Except.error.inj hunable).symm⟩))
        · cases hunable
  | conflicting c => exact .inr (.inr (.inr ⟨c.dimension, rfl⟩))

/-- A classification that is refused changes nothing. -/
theorem perform_refused (hb : a.registry.builder? b.entity = some b)
    (hf : (a.perform line (.classify b.entity field dimension)).2 = .error f) :
    b.classify field dimension = .error f ∧ (a.perform line (.classify b.entity field dimension)).1 = a := by
  obtain ⟨hfault, hsame⟩ := Registry.classify_refused hb (Registry.error_of_map hf)
  refine ⟨hfault, ?_⟩
  rw [perform_classify, hsame]

/-- A classification that was made before succeeds, and changes nothing. -/
theorem perform_repeated {log : List Classification} {k : Classified} (hdistinct : a.registry.Distinct)
    (hmapped : a.registry.Mapped log) (hb : a.registry.builder? b.entity = some b) (hk : k ∈ b.classified) :
    a.perform line (.classify b.entity k.field k.dimension) = (a, .ok .done) := by
  have hproper := (hmapped.mapped (Registry.facts_of_builder hb)).proper
  rw [perform_classify, hdistinct.classify_repeated hb (Registry.classify_of_proper hproper hk)]
  rfl

/-- A builder that can be made is made of the description that the catalog has. -/
theorem exists_made {schema : Schema} (hnone : a.registry.builder? entity = none)
    (hschema : a.registry.catalog.describe? entity = some schema) (hb : Builder.ofSchema? schema = .ok b)
    (htype : action.type? = some entity) (hsource : a.HasSource action) (line : Nat) :
    ∃ b', (a.perform line action).1.registry.builder? entity = some b' ∧ b'.schema = schema := by
  have hget : a.registry.get entity = ({ a.registry with builders := a.registry.builders ++ [b] }, .ok b) := by
    unfold Registry.get
    simp only [hnone, hschema, hb]
  obtain ⟨log, hcourse⟩ := course_of_get hget htype hsource line
  obtain ⟨b', hb', hlearns⟩ := hcourse.learns (Registry.get_ok hget)
  exact ⟨b', hb', hlearns.schema.trans (Builder.unused_ofSchema hb).schema⟩

/-- In every state of a run, a classification of a type that has a builder leaves everything as it is when it is
refused, which it is with a fault of the field, or when the field has the dimension already: all that is done
afterwards has the answers and leaves the state that it would have without it. And where the builder of a type
cannot be made, the registry has the builders that it had, and an action that begins with that builder fails with the
fault of making it. So it is until the type is described anew: whatever is done, there is no builder of the type. Once
it can be made, the next action that begins with it makes it of the description that the catalog has by then; no
builder is of any other. -/
theorem refused_without_trace (c : Catalog) (m : Matcher) (acts : List (Nat × Action)) :
    let a := ((separate c m).run acts).1
    (∀ line entity field dimension b, a.registry.builder? entity = some b →
      let out := a.perform line (.classify entity field dimension)
      (∀ f, out.2 = .error f →
        f = .unknownField entity field ∨ (∃ other, f = .foreignField entity field other) ∨
          (∃ kind, f = .unsupportedFieldKind entity field kind Kind.classifiableNames) ∨
          ∃ other, f = .conflictingClassification entity field other dimension) ∧
      ((∃ k ∈ b.classified, k.field = field ∧ k.dimension = dimension) → out.2 = .ok .done) ∧
      ((∃ f, out.2 = .error f) ∨ (∃ k ∈ b.classified, k.field = field ∧ k.dimension = dimension) →
        out.1 = a ∧ ∀ later, a.run ((line, .classify entity field dimension) :: later) =
          ((a.run later).1, out.2 :: (a.run later).2))) ∧
    (∀ entity f, (a.registry.get entity).2 = .error f →
      (a.registry.get entity).1 = a.registry ∧
      (∀ line action, action.type? = some entity → a.HasSource action → a.perform line action = (a, .error f)) ∧
      (∀ later, (∀ step ∈ later, ¬ step.2.describes entity) →
        (a.run later).1.registry.builder? entity = none ∧ ((a.run later).1.registry.get entity).2 = .error f) ∧
      ∀ later b, (a.run later).1.registry.builder? entity = some b →
        ∃ before step after, later = before ++ step :: after ∧ (a.run before).1.registry.builder? entity = none ∧
          (a.run before).1.registry.catalog.describe? entity = some b.schema) ∧
    ∀ entity s b, a.registry.builder? entity = none → a.registry.catalog.describe? entity = some s →
      Builder.ofSchema? s = .ok b → ∀ line action, action.type? = some entity → a.HasSource action →
        ∃ b', (a.perform line action).1.registry.builder? entity = some b' ∧ b'.schema = s := by
  intro a
  have hdistinct : a.registry.Distinct := registryDistinct_run acts List.nodup_nil
  have hmapped : a.registry.Mapped ([] ++ (separate c m).registrationsIn acts) :=
    mapped_run acts (Registry.mapped_new c)
  refine ⟨fun line entity field dimension b hb => ?_, fun entity f hget => ?_,
    fun entity s b hnone hs ho line action htype hsource => exists_made hnone hs ho htype hsource line⟩
  · intro out
    obtain rfl := Registry.builder?_entity hb
    have hrepeated : (∃ k ∈ b.classified, k.field = field ∧ k.dimension = dimension) → out = (a, .ok .done) := by
      rintro ⟨k, hk, rfl, rfl⟩
      exact perform_repeated hdistinct hmapped hb hk
    refine ⟨fun f hf => fault_of_classify (perform_refused hb hf).1, fun h => congrArg Prod.snd (hrepeated h),
      fun h => ?_⟩
    have hsame : out.1 = a := by
      rcases h with ⟨f, hf⟩ | h
      · exact (perform_refused hb hf).2
      · exact congrArg Prod.fst (hrepeated h)
    refine ⟨hsame, fun later => ?_⟩
    show ((out.1.run later).1, out.2 :: (out.1.run later).2) = _
    rw [hsame]
  · have hfacts := Registry.facts_of_get hget
    obtain ⟨hnone, herror⟩ := Registry.get_error hfacts
    refine ⟨congrArg Prod.fst herror, fun line action htype hsource => ?_, fun later hnot => ?_, fun later b hb => ?_⟩
    · exact perform_of_get_error herror htype hsource line
    · obtain ⟨hnone', herror'⟩ := Registry.get_error (facts_error_run later hfacts hnot)
      exact ⟨hnone', congrArg Prod.snd herror'⟩
    · exact exists_description later hnone hb

/-- Orders, and files whose content is classified though it cannot be. -/
def desk : Catalog :=
  [⟨"orders", [⟨"region", .text, "orders", some "region"⟩], []⟩,
    ⟨"files", [⟨"content", .binary, "files", some "content"⟩], []⟩]

/-- Files with an owner to classify. -/
def ownedFiles : Schema := ⟨"files", [⟨"owner", .text, "files", some "owner"⟩], []⟩

/-- A field that there is not, a field that is classified already, and files that are described anew after their
builder could not be made. -/
theorem refused_without_trace_files :
    let opened : List (Nat × Action) := [(0, .builder "orders")]
    let a := ((separate desk .standard).run opened).1
    let b := ((separate desk .standard).run (opened ++ [(0, .register ownedFiles)])).1
    (a.perform 0 (.classify "orders" "colour" "colour")).1 = a ∧
      (a.perform 0 (.classify "orders" "region" "region")) = (a, .ok .done) ∧
      a.perform 0 (.builder "files") =
        (a, .error (.unsupportedFieldKind "files" "content" "binary" Kind.classifiableNames)) ∧
      ∃ files, (b.perform 0 (.builder "files")).1.registry.builder? "files" = some files ∧
        files.schema = ownedFiles := by
  intro opened a b
  have hsource : ∀ x : Access, x.HasSource (.builder "files") := fun x source entity h => by cases h
  obtain ⟨hclassify, hmake, -⟩ := refused_without_trace desk .standard opened
  obtain ⟨-, -, hmake'⟩ := refused_without_trace desk .standard (opened ++ [(0, .register ownedFiles)])
  obtain ⟨-, -, hcolour⟩ := hclassify 0 "orders" "colour" "colour" _ rfl
  obtain ⟨-, hdone, hregion⟩ := hclassify 0 "orders" "region" "region" _ rfl
  have hheld : ∃ k ∈ [(⟨"region", "region", .text⟩ : Classified)], k.field = "region" ∧ k.dimension = "region" := by
    decide
  obtain ⟨-, hfails, -⟩ := hmake "files" _ rfl
  exact ⟨(hcolour (.inl ⟨_, rfl⟩)).1, Prod.ext (hregion (.inr hheld)).1 (hdone hheld),
    hfails 0 (.builder "files") rfl (hsource _),
    hmake' "files" ownedFiles _ rfl rfl rfl 0 (.builder "files") rfl (hsource _)⟩

end Access

end RowAccess
