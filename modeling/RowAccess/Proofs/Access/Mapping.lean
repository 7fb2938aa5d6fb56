import Mathlib.Data.List.Basic
import Mathlib.Tactic.Common
import RowAccess.Proofs.Access.Consulted
import RowAccess.Proofs.Access.Sight
import RowAccess.Proofs.Registry.Fault

/-!
# Mappings over a run

A run classifies fields: one by one, by configurations, and by making builders of schemas that classify some. After
it every builder has the fields of its own schema first and then those of the run, each of them once, and no request
finds a field whose kind cannot be classified.
-/

namespace RowAccess

namespace Registry

variable {r r' : Registry} {log : List Classification}

/-- Classifying a field of a type is classifying a list of one. -/
theorem classifyAll_singleton (r : Registry) (c : Classification) :
    Access.classifyAll r [c] = r.classify c.entity c.field c.dimension := by
  unfold Access.classifyAll
  generalize r.classify c.entity c.field c.dimension = out
  obtain ⟨r₁, result⟩ := out
  cases result <;> rfl

end Registry

namespace Action

/-- The source and the type of a request. -/
def request? : Action → Option (Option SourceRef × String)
  | .ownRestriction source entity => some (source, entity)
  | .inclusiveRestriction source entity => some (source, entity)
  | .filter source entity _ => some (source, entity)
  | _ => none

end Action

namespace Access

open Facts (Reaches)

variable {a : Access} {line : Nat} {action : Action} {source : Option SourceRef} {s : SourceRef} {entity : String}
  {f : Fault}

/-! ### What a run classifies -/

/-- What an action classifies: one field, or those of a configuration before the first that fails. -/
def registrations (a : Access) : Action → List Classification
  | .classify entity field dimension => a.registry.accepted [⟨entity, field, dimension⟩]
  | .configure c =>
      c.check.toOption.elim [] fun _ =>
        ((a.cleared c).addPermissions Scope.rootSerial c.permissions).toOption.elim [] fun _ =>
          a.registry.accepted c.classifications
  | _ => []

/-- What the actions of a run classify, one after another. -/
def registrationsIn (a : Access) : List (Nat × Action) → List Classification
  | [] => []
  | (line, action) :: rest => a.registrations action ++ registrationsIn (a.perform line action).1 rest

theorem mapped_configure {log : List Classification} (h : a.registry.Mapped log) (c : Config) :
    (a.configure c).1.registry.Mapped (log ++ a.registrations (.configure c)) := by
  rw [configure_eq_configured, registrations]
  cases c.check with
  | error g => rwa [← List.append_nil log] at h
  | ok _ =>
    show (a.configured c).1.registry.Mapped (log ++ _)
    unfold configured
    dsimp only [Except.toOption, Option.elim_some]
    cases (a.cleared c).addPermissions Scope.rootSerial c.permissions with
    | error g => rwa [← List.append_nil log] at h
    | ok stack => exact Registry.mapped_classifyAll c.classifications h

theorem mapped_perform {log : List Classification} (h : a.registry.Mapped log) (line : Nat) (action : Action) :
    (a.perform line action).1.registry.Mapped (log ++ a.registrations action) := by
  have hkept : a.registry.Mapped (log ++ []) := by rwa [List.append_nil]
  cases action with
  | register s => exact hkept.register s
  | classify entity field dimension =>
    have hall := Registry.mapped_classifyAll [⟨entity, field, dimension⟩] h
    rwa [Registry.classifyAll_singleton] at hall
  | builder entity => exact hkept.extends (Registry.extends_get a.registry entity)
  | addPermissions ref tokens =>
    show (a.changeStack _).1.registry.Mapped _
    rwa [changeStack_registry]
  | addDenied ref patterns =>
    show (a.changeStack _).1.registry.Mapped _
    rwa [changeStack_registry]
  | configure c => exact mapped_configure h c
  | setStandardSource s => exact hkept.switched _
  | ownRestriction source entity =>
    exact hkept.extends (extends_request a line source fun r view => Registry.extends_ownRestriction r view entity)
  | inclusiveRestriction source entity =>
    exact hkept.extends
      (extends_request a line source fun r view => Registry.extends_inclusiveRestriction r view entity)
  | filter source entity _ =>
    exact hkept.extends
      (extends_request a line source fun r view => Registry.extends_inclusiveRestriction r view entity)
  | _ => exact hkept

theorem mapped_run :
    ∀ (acts : List (Nat × Action)) {a : Access} {log : List Classification}, a.registry.Mapped log →
      (a.run acts).1.registry.Mapped (log ++ a.registrationsIn acts)
  | [], a, log, h => by
      show a.registry.Mapped (log ++ [])
      rwa [List.append_nil]
  | (line, action) :: rest, a, log, h => by
      have hrest := mapped_run rest (mapped_perform h line action)
      rwa [List.append_assoc] at hrest

/-! ### How requests fail -/

/-- Registries are asked for the restriction of a type alone, or for that of the type and its ancestors. -/
inductive Asks (entity : String) : (Registry → SourceView → Registry × Except Fault Restriction) → Prop
  | own : Asks entity fun r view => r.ownRestriction view entity
  | inclusive : Asks entity fun r view => r.inclusiveRestriction view entity

/-- A request asks the registry, and tells what comes of it. -/
theorem exists_ask (h : action.request? = some (source, entity)) :
    ∃ ask, Asks entity ask ∧ ∃ tell : Restriction → Answer, ∀ (a : Access) (line : Nat),
      a.perform line action = ((a.request line source ask).1, (a.request line source ask).2.map tell) := by
  cases action with
  | ownRestriction source' entity' =>
    obtain ⟨rfl, rfl⟩ := Prod.mk.inj (Option.some.inj h)
    exact ⟨_, .own, .restriction, fun a line => rfl⟩
  | inclusiveRestriction source' entity' =>
    obtain ⟨rfl, rfl⟩ := Prod.mk.inj (Option.some.inj h)
    exact ⟨_, .inclusive, .restriction, fun a line => rfl⟩
  | filter source' entity' rows =>
    obtain ⟨rfl, rfl⟩ := Prod.mk.inj (Option.some.inj h)
    exact ⟨_, .inclusive, fun x => .rows (filterRows x id rows), fun a line => rfl⟩
  | _ => cases h

/-- A request to a source that there is fails with a fault of its type or of one that it reaches. -/
theorem origin_of_request (hrequest : action.request? = some (source, entity)) (hs : a.sourceOr source = .ok s)
    (hf : (a.perform line action).2 = .error f) : a.registry.Origin (a.view line s) entity f := by
  obtain ⟨ask, hask, tell, hperform⟩ := exists_ask hrequest
  rw [hperform, request_of_source hs] at hf
  cases hask with
  | own => exact Registry.origin_self (Registry.ownMeaning_of_ownRestriction (Registry.error_of_map hf))
  | inclusive => exact Registry.origin_of_inclusiveRestriction (Registry.error_of_map hf)

/-- A request without a source fails with the fault that says so. -/
theorem fault_of_sourceless (hrequest : action.request? = some (none, entity)) {g : Fault}
    (hs : a.sourceOr none = .error g) (hf : (a.perform line action).2 = .error f) : f = .missingClearanceSource := by
  obtain ⟨ask, -, tell, hperform⟩ := exists_ask hrequest
  have hnone : a.sourceOr none = .error .missingClearanceSource := by
    unfold sourceOr Registry.standardSource at hs ⊢
    dsimp only at hs ⊢
    split at hs
    · cases hs
    · rfl
  simp only [hperform, request, hnone] at hf
  exact (Except.error.inj hf).symm

/-- Over every run of an access control, the mapping of a builder has no field twice and only fields that the schema
of the builder declares itself, of classifiable kinds; it has the fields that the schema classifies first, and then
those that the run classified, in the order in which they came first. A builder keeps its schema and its mapping as
the run goes on, but for fields that come behind. No request ever fails because a kind cannot carry a
classification; and where a type and all types that it reaches have builders, a request to a source that is named
fails with a refused token alone. -/
theorem mapping_of_registrations (c : Catalog) (m : Matcher) (acts : List (Nat × Action)) :
    let start := separate c m
    let a := (start.run acts).1
    (∀ entity b, a.registry.builder? entity = some b →
      (b.classified.map Classified.field).Nodup ∧
      (∀ k ∈ b.classified, ∃ f, b.schema.field? k.field = some f ∧ f.declaredBy = b.entity ∧
        f.kind = k.kind ∧ k.kind.isClassifiable = true) ∧
      (b.classified.map fun k => (k.field, k.dimension)) =
        (Builder.declared b.schema ++ labelsOf (start.registrationsIn acts) entity).eraseDups) ∧
    (∀ more entity b, a.registry.builder? entity = some b →
      ∃ b', (a.run more).1.registry.builder? entity = some b' ∧ b'.schema = b.schema ∧
        b.classified <+: b'.classified) ∧
    ∀ line action source entity f, action.request? = some (source, entity) → (a.perform line action).2 = .error f →
      (∀ field kind token, f ≠ .valueCoercion field kind token "kind cannot carry a classification") ∧
      ((∀ t, Reaches a.registry.facts entity t → ∃ b, a.registry.builder? t = some b) → source.isSome = true →
        ∃ field kind token reason, f = .valueCoercion field kind token reason) := by
  intro start a
  have hmapped : a.registry.Mapped ([] ++ start.registrationsIn acts) := mapped_run acts (Registry.mapped_new c)
  rw [List.nil_append] at hmapped
  refine ⟨fun entity b hb => ?_, fun more entity b hb => ?_, fun line action source entity f hrequest hf => ?_⟩
  · obtain ⟨hproper, hlabels⟩ := hmapped.mapped (Registry.facts_of_builder hb)
    exact ⟨hproper.once, hproper.declared, hlabels⟩
  · obtain ⟨b', hb', hlearns⟩ := (course_run a more).learns hb
    exact ⟨b', hb', hlearns.schema, hlearns.classified⟩
  · cases hs : a.sourceOr source with
    | error g =>
      cases source with
      | some s => cases hs
      | none =>
        obtain rfl := fault_of_sourceless hrequest hs hf
        exact ⟨nofun, nofun⟩
    | ok s =>
      obtain ⟨t, hreach, ht⟩ := origin_of_request hrequest hs hf
      rcases Registry.fault_of_ownMeaning hmapped ht with ⟨hnone, hregistration⟩ | hrefused
      · refine ⟨?_, fun hbuilt _ => ?_⟩
        · rintro field kind token rfl
          cases hregistration
        · obtain ⟨b, hb⟩ := hbuilt t hreach
          cases hnone.symm.trans hb
      · obtain ⟨field, kind, token, reason, rfl, hreason⟩ := hrefused
        refine ⟨fun field' kind' token' heq => hreason ?_, fun _ _ => ⟨field, kind, token, reason, rfl⟩⟩
        injection heq

/-- Orders with a region that the schema classifies, and a tier. -/
def tieredOrders : Catalog :=
  [⟨"orders", [⟨"tier", .whole .u8, "orders", none⟩, ⟨"region", .text, "orders", some "region"⟩], []⟩]

/-- The tier is classified, and its token is no number. -/
def highTier : List (Nat × Action) :=
  [(0, .addSource (.static 0 [("tier", ["high"]), ("region", ["EU"])])), (0, .classify "orders" "tier" "tier")]

theorem mapping_of_registrations_highTier :
    let a := ((separate tieredOrders .standard).run highTier).1
    ∃ b f, a.registry.builder? "orders" = some b ∧
      (b.classified.map fun k => (k.field, k.dimension)) = [("region", "region"), ("tier", "tier")] ∧
      (a.perform 0 (.ownRestriction (some (.made 0)) "orders")).2 = .error f ∧
      ∃ field kind token reason, f = .valueCoercion field kind token reason := by
  intro a
  obtain ⟨hmapping, -, hfaults⟩ := mapping_of_registrations tieredOrders .standard highTier
  have hb : ∃ b, a.registry.builder? "orders" = some b ∧ b.schema.fields =
      [⟨"tier", .whole .u8, "orders", none⟩, ⟨"region", .text, "orders", some "region"⟩] := ⟨_, rfl, rfl⟩
  have hf : ∃ f, (a.perform 0 (.ownRestriction (some (.made 0)) "orders")).2 = .error f := ⟨_, rfl⟩
  obtain ⟨b, hb, hfields⟩ := hb
  obtain ⟨f, hf⟩ := hf
  obtain ⟨-, -, hlabels⟩ := hmapping "orders" b hb
  refine ⟨b, f, hb, ?_, hf, (hfaults 0 _ (some (.made 0)) "orders" f rfl hf).2 (fun t ht => ?_) rfl⟩
  · rw [hlabels, Builder.declared, hfields]
    decide
  · obtain ⟨edges, hchain⟩ := ht
    cases edges with
    | nil =>
      obtain rfl : "orders" = t := hchain
      exact ⟨b, hb⟩
    | cons e rest =>
      obtain ⟨⟨known, hknown, he⟩, -⟩ := hchain
      obtain rfl := Except.ok.inj hknown
      cases he

/-- A field that is classified again counts, and one that is refused another dimension does not. -/
example :
    (separate [⟨"orders", [⟨"region", .text, "orders", some "region"⟩, ⟨"tier", .whole .u8, "orders", none⟩], []⟩]
        .standard).registrationsIn
      [(0, .classify "orders" "tier" "tier"), (0, .classify "orders" "tier" "level"),
        (0, .configure ⟨none, none, .empty, [], [⟨"orders", "region", "region"⟩, ⟨"orders", "none", "tier"⟩]⟩)] =
      [⟨"orders", "tier", "tier"⟩, ⟨"orders", "region", "region"⟩] := rfl

end Access

end RowAccess
