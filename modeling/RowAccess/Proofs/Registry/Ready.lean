import Mathlib.Data.List.Basic
import Mathlib.Logic.Function.Basic
import Mathlib.Tactic.Common
import RowAccess.Proofs.Registry.Acyclic
import RowAccess.Proofs.Registry.Coherence
import RowAccess.Proofs.Registry.Renewal

/-!
# Types that are ready for a source

After a type was asked for under the tokens of a source, everything that the answer was made from is kept: the
own restrictions of the type and of all its ancestors answer the source as it is seen, and the inclusive ones
were put together from just those generations that their parts still have. `Registry.Ready` says so. A traversal
leaves the builders of all types alone that are ready for its source or are being visited, and a type that it
has a complete answer for is ready behind it.
-/

namespace RowAccess

open RowAccess.Builder (Resolved)

namespace Registry

variable {view : SourceView} {r r' r'' : Registry} {log more : List Consultation} {entity e : String}
  {b : Builder} {visiting : List String}

/-- The inclusive generation that a type has come to. -/
def inclusiveGeneration (r : Registry) (entity : String) : Option Nat :=
  r.reached (fun b => b.inclusive.generation) entity

/-- A type whose restriction, and those of all its ancestors, would be answered from what is kept. -/
inductive Ready (view : SourceView) (r : Registry) : String → Prop
  | intro {entity : String} {b : Builder} (found : r.builder? entity = some b) (own : b.Fresh view)
      (built : ∃ x, b.inclusive.restriction = some x)
      (sameOwn : b.inclusive.ownGeneration = b.own.generation)
      (sameParents : b.inclusive.parentGenerations.map some =
        b.schema.edges.map fun e => r.inclusiveGeneration e.target)
      (ancestors : ∀ e ∈ b.schema.edges, Ready view r e.target) : Ready view r entity

/-- A type stays ready where no builder of a ready type changes. -/
theorem Ready.congr (h : Ready view r entity)
    (hkept : ∀ u, Ready view r u → r'.builder? u = r.builder? u) : Ready view r' entity := by
  induction h with
  | @intro entity b found own built sameOwn sameParents ancestors ih =>
    refine .intro ((hkept _ (.intro found own built sameOwn sameParents ancestors)).trans found) own built
      sameOwn ?_ ih
    rw [sameParents]
    refine List.map_congr_left fun e he => ?_
    unfold inclusiveGeneration reached
    rw [hkept _ (ancestors e he)]

/-- What a traversal leaves alone, with what it consults: types that are being visited, and those that are
ready for its source. -/
structure Passage (view : SourceView) (visiting : List String) (r : Registry) (log : List Consultation)
    (r' : Registry) : Prop where
  course : Course r log r'
  visiting : ∀ u ∈ visiting, r'.builder? u = r.builder? u
  ready : ∀ u, Ready view r u → r'.builder? u = r.builder? u

theorem Passage.refl (view : SourceView) (visiting : List String) (r : Registry) :
    Passage view visiting r [] r :=
  ⟨.refl, fun _ _ => rfl, fun _ _ => rfl⟩

theorem Passage.stays (h : Passage view visiting r log r') (he : Ready view r e) : Ready view r' e :=
  he.congr h.ready

theorem Passage.trans (h : Passage view visiting r log r') (h' : Passage view visiting r' more r'') :
    Passage view visiting r (log ++ more) r'' where
  course := h.course.trans h'.course
  visiting u hu := (h'.visiting u hu).trans (h.visiting u hu)
  ready u hu := (h'.ready u (h.stays hu)).trans (h.ready u hu)

theorem Passage.of_subset {outer : List String} (h : Passage view visiting r log r')
    (hsub : ∀ u ∈ outer, u ∈ visiting) : Passage view outer r log r' :=
  ⟨h.course, fun u hu => h.visiting u (hsub u hu), h.ready⟩

/-- A change of a builder whose type is not being visited, and which is no change if the type is ready. -/
theorem Shift.passage (h : Shift r r' log) {serial : Nat} (hputs : r.Puts entity b serial r')
    (hnew : entity ∉ visiting) (hready : Ready view r entity → r.builder? entity = some b) :
    Passage view visiting r log r' := by
  refine ⟨h.course, fun u hu => hputs.of_ne fun heq => hnew (heq ▸ hu), fun u hu => ?_⟩
  by_cases heq : u = entity
  · subst heq
    rw [hputs.eq (hready hu)]
  · exact hputs.of_ne heq

theorem Ready.found (h : Ready view r entity) (hb : r.builder? entity = some b) :
    b.Fresh view ∧ (∃ x, b.inclusive.restriction = some x) ∧
      b.inclusive.ownGeneration = b.own.generation ∧
      b.inclusive.parentGenerations.map some =
        b.schema.edges.map (fun e => r.inclusiveGeneration e.target) ∧
      ∀ e ∈ b.schema.edges, Ready view r e.target := by
  cases h with
  | intro found own built sameOwn sameParents ancestors =>
    obtain rfl := Option.some.inj (found.symm.trans hb)
    exact ⟨own, built, sameOwn, sameParents, ancestors⟩

/-! ### Steps of a traversal -/

/-- Making a builder is no concern of types that have one. -/
theorem passage_get (view : SourceView) (r : Registry) (hnew : entity ∉ visiting) :
    Passage view visiting r [] (r.get entity).1 := by
  rcases r.get_puts entity with heq | ⟨hnone, b, s, hu, hputs⟩
  · rw [heq]
    exact .refl view visiting r
  · refine (Shift.made hnone hu hputs).passage hputs hnew fun hready => ?_
    cases hready with
    | intro found => cases hnone.symm.trans found

/-- A builder that is consulted changes only if it is not ready. -/
theorem passage_resolveOwn (hb : r.builder? b.entity = some b) (view : SourceView)
    (hnew : b.entity ∉ visiting) :
    Passage view visiting r [r.consultation view b] (r.resolveOwn view b).1 := by
  refine (shift_resolveOwn hb view).passage (puts_resolveOwn hb view) hnew fun hready => ?_
  obtain ⟨hfresh, -⟩ := hready.found hb
  obtain ⟨x, hx⟩ := hfresh.built
  rw [hfresh.resolveOwn hx, hb]

/-- A builder that is put back as it was is no change. -/
theorem passage_put (view : SourceView) (visiting : List String) (hb : r.builder? b.entity = some b)
    {serial : Nat} (hle : r.serial ≤ serial) :
    Passage view visiting r [] (({ r with serial } : Registry).put b) := by
  have hsame := (puts_put hb serial).eq hb
  exact ⟨(Shift.kept hsame hle).course, fun u _ => by rw [hsame], fun u _ => by rw [hsame]⟩

/-- A visit of types: the registry goes a course that leaves ready types alone, and a type with a complete
answer is ready. -/
structure Walks (view : SourceView) (visit : Traversal → String → Traversal × Except Fault Resolved)
    (log : Traversal → String → List Consultation) : Prop where
  continues : ∀ t entity, Continues t (visit t entity).1
  passage : ∀ t entity, entity ∉ t.visiting →
    Passage view t.visiting t.registry (log t entity) (visit t entity).1.registry
  answer : ∀ t entity, entity ∉ t.visiting → ∀ p, (visit t entity).2 = .ok p → p.complete = true →
    Ready view (visit t entity).1.registry entity ∧ (visit t entity).1.registry.Holds entity p

/-- Parents along all edges of a type that are ready and keep what they answered. -/
structure Settled (view : SourceView) (r : Registry) (edges : List Edge)
    (parents : List (Edge × Resolved)) : Prop where
  edges : parents.map Prod.fst = edges
  ready : ∀ p ∈ parents, Ready view r p.1.target
  held : ∀ p ∈ parents, r.Holds p.1.target p.2

variable {visit : Traversal → String → Traversal × Except Fault Resolved}
  {logs : Traversal → String → List Consultation}

theorem Passage.holds (h : Passage view visiting r log r') {p : Resolved} (he : Ready view r e)
    (hp : r.Holds e p) : r'.Holds e p := by
  unfold Holds
  rw [h.ready e he]
  exact hp

theorem Walks.parents (h : Walks view visit logs) :
    ∀ (edges : List Edge) (t : Traversal),
      Passage view t.visiting t.registry (parentConsultations visit logs t edges)
        (resolveParents visit t edges).1.registry ∧
      ∀ parents, (resolveParents visit t edges).2 = .ok (parents, true) →
        Settled view (resolveParents visit t edges).1.registry edges parents
  | [], t => by
      refine ⟨.refl _ _ _, fun parents hp => ?_⟩
      obtain ⟨rfl, -⟩ := Prod.mk.inj (Except.ok.inj hp)
      exact ⟨rfl, fun p hp => (List.not_mem_nil hp).elim, fun p hp => (List.not_mem_nil hp).elim⟩
  | e :: rest, t => by
      unfold resolveParents parentConsultations
      by_cases hc : t.visiting.contains e.target
      · rw [if_pos hc, if_pos hc]
        obtain ⟨hpassage, -⟩ := h.parents rest t
        generalize resolveParents visit t rest = out at hpassage
        obtain ⟨t', result⟩ := out
        cases result with
        | error f => exact ⟨hpassage, fun _ hp => by cases hp⟩
        | ok y => exact ⟨hpassage, fun _ hp => by cases hp⟩
      · rw [if_neg hc, if_neg hc]
        have hnew : e.target ∉ t.visiting := fun hmem => hc (List.contains_iff_mem.mpr hmem)
        have hcont := h.continues t e.target
        have hfirst := h.passage t e.target hnew
        have hanswer := h.answer t e.target hnew
        generalize visit t e.target = out at hcont hfirst hanswer
        obtain ⟨t', result⟩ := out
        cases result with
        | error f =>
          rw [List.append_nil]
          exact ⟨hfirst, fun _ hp => by cases hp⟩
        | ok x =>
          obtain ⟨hrest, hsettled⟩ := h.parents rest t'
          rw [hcont.visiting] at hrest
          dsimp only
          generalize resolveParents visit t' rest = out at hrest hsettled
          obtain ⟨t'', result⟩ := out
          cases result with
          | error f => exact ⟨hfirst.trans hrest, fun _ hp => by cases hp⟩
          | ok y =>
            refine ⟨hfirst.trans hrest, fun parents hp => ?_⟩
            obtain ⟨rfl, hboth⟩ := Prod.mk.inj (Except.ok.inj hp)
            obtain ⟨hx, hy⟩ := Bool.and_eq_true_iff.mp hboth
            obtain ⟨hready, hholds⟩ := hanswer x rfl hx
            have hs := hsettled y.1 (by rw [← hy])
            refine ⟨congrArg (e :: ·) hs.edges, fun p hp => ?_, fun p hp => ?_⟩
            · rcases List.mem_cons.mp hp with rfl | hp
              · exact hrest.stays hready
              · exact hs.ready p hp
            · rcases List.mem_cons.mp hp with rfl | hp
              · exact hrest.holds hready hholds
              · exact hs.held p hp

/-- The generations that parents answered are those that they have. -/
theorem generations_of_held {edges : List Edge} {parents : List (Edge × Resolved)}
    (hedges : parents.map Prod.fst = edges) (hheld : ∀ p ∈ parents, r.Holds p.1.target p.2) :
    (parents.map fun p => p.2.generation).map some = edges.map fun e => r.inclusiveGeneration e.target := by
  rw [← hedges, List.map_map, List.map_map]
  refine List.map_congr_left fun p hp => ?_
  obtain ⟨b, hb, -, hgen⟩ := hheld p hp
  show some p.2.generation = (r.builder? p.1.target).map _
  rw [hb, Option.map_some, hgen]

/-- Generations that parents have are those that they answer. -/
theorem generations_eq {edges : List Edge} {parents : List (Edge × Resolved)} {generations : List Nat}
    (hsame : generations.map some = edges.map fun e => r.inclusiveGeneration e.target)
    (hedges : parents.map Prod.fst = edges) (hheld : ∀ p ∈ parents, r.Holds p.1.target p.2) :
    generations = parents.map fun p => p.2.generation :=
  List.map_injective_iff.mpr (fun _ _ => Option.some.inj) (hsame.trans (generations_of_held hedges hheld).symm)

/-- A restriction that is put together from ready parts is ready; if it was before, nothing changes. -/
theorem Settled.settle {parents : List (Edge × Resolved)} {own : Restriction}
    (h : Settled view r b.schema.edges parents) (hb : r.builder? b.entity = some b) (hfresh : b.Fresh view)
    (hown : b.own.restriction = some own) (hnew : b.entity ∉ visiting) :
    let out := b.settle own b.own.generation parents true r.serial
    let r' := ({ r with serial := out.2.1 } : Registry).put out.1
    Passage view visiting r [] r' ∧ Ready view r' b.entity ∧ r'.Holds b.entity out.2.2 := by
  intro out r'
  have hentity : out.1.entity = b.entity :=
    entity_eq_of_facts (facts_settle b own b.own.generation parents true r.serial)
  have hputs : r.Puts b.entity out.1 out.2.1 r' := by
    have hput := puts_put (b := out.1) (r := r) (hentity.symm ▸ hb) out.2.1
    rwa [hentity] at hput
  have hpassage : Passage view visiting r [] r' := by
    refine (Shift.settled hb hown h.edges h.held hputs).passage hputs hnew fun hready => ?_
    obtain ⟨-, ⟨x, hx⟩, hsame, hparents, -⟩ := hready.found hb
    have hgens := generations_eq hparents h.edges h.held
    rw [hb]
    exact congrArg some (congrArg Prod.fst (Builder.settle_of_same hx hsame hgens r.serial)).symm
  have hancestors : ∀ e ∈ b.schema.edges, Ready view r e.target := by
    intro e he
    rw [← h.edges] at he
    obtain ⟨p, hp, rfl⟩ := List.mem_map.mp he
    exact h.ready p hp
  have hgens : (parents.map fun p => p.2.generation).map some =
      b.schema.edges.map fun e => r'.inclusiveGeneration e.target := by
    rw [generations_of_held h.edges h.held]
    refine List.map_congr_left fun e he => ?_
    unfold inclusiveGeneration reached
    rw [hpassage.ready _ (hancestors e he)]
  have hstep := b.settle_step own b.own.generation parents r.serial
  have hself := hputs.self
  change Builder.SettleStep b own b.own.generation parents r.serial out at hstep
  generalize out = o at hstep hself
  cases hstep with
  | kept x held sameOwn sameParents =>
    refine ⟨hpassage, .intro hself hfresh ⟨x, held⟩ sameOwn ?_ fun e he => hpassage.stays (hancestors e he),
      b, hself, held, rfl⟩
    rw [sameParents, hgens]
  | built changed =>
    refine ⟨hpassage, .intro hself ⟨hfresh.source, hfresh.built, hfresh.version, hfresh.fingerprint⟩
      ⟨_, rfl⟩ rfl hgens fun e he => hpassage.stays (hancestors e he), _, hself, rfl, rfl⟩

/-- A builder whose type is visited goes through its own fields, its parents, and the two together. -/
theorem Walks.compose (h : Walks view visit logs) {t : Traversal}
    (hvis : t.visiting = visiting ++ [b.entity]) (hnew : b.entity ∉ visiting)
    (hb : t.registry.builder? b.entity = some b) :
    Passage view visiting t.registry (composeConsultations visit logs view t b)
        (Registry.compose visit view t b).1.registry ∧
      ∀ p, (Registry.compose visit view t b).2 = .ok p → p.complete = true →
        Ready view (Registry.compose visit view t b).1.registry b.entity ∧
          (Registry.compose visit view t b).1.registry.Holds b.entity p := by
  have hsub : ∀ u ∈ visiting, u ∈ t.visiting := by
    intro u hu
    rw [hvis]
    exact List.mem_append_left _ hu
  have hself : b.entity ∈ t.visiting := by
    rw [hvis]
    exact List.mem_append_right _ (List.mem_singleton_self _)
  have hfirst := passage_resolveOwn hb view hnew
  have hfound := (puts_resolveOwn hb view).self
  have hown : ∀ x g, (t.registry.resolveOwn view b).2 = .ok (x, g) →
      (b.resolveOwn view t.registry.serial).builder.Fresh view ∧
        (b.resolveOwn view t.registry.serial).builder.own.restriction = some x ∧
        (b.resolveOwn view t.registry.serial).builder.own.generation = g :=
    fun x g hx => (b.resolveOwn_step view t.registry.serial).fresh hx
  have hfacts := facts_resolveOwn b view t.registry.serial
  unfold Registry.compose composeConsultations
  generalize (b.resolveOwn view t.registry.serial).builder = b₁ at hfound hown hfacts
  generalize t.registry.resolveOwn view b = out at hfirst hfound hown
  obtain ⟨r₁, result⟩ := out
  cases result with
  | error f => exact ⟨hfirst, fun p hp => by cases hp⟩
  | ok x =>
    obtain ⟨own, g⟩ := x
    obtain ⟨hfresh, hkept, rfl⟩ := hown own g rfl
    obtain ⟨hparents, hsettled⟩ := h.parents b.schema.edges { t with registry := r₁ }
    have hpassage := hfirst.trans (hparents.of_subset hsub)
    have hstays := hparents.visiting b.entity hself
    dsimp only
    generalize resolveParents visit { t with registry := r₁ } b.schema.edges = out
      at hparents hsettled hpassage hstays
    obtain ⟨t₂, result⟩ := out
    cases result with
    | error f => exact ⟨hpassage, fun p hp => by cases hp⟩
    | ok y =>
      obtain ⟨parents, complete⟩ := y
      have hb₂ : t₂.registry.builder? b.entity = some b₁ := hstays.trans hfound
      have hentity : b₁.entity = b.entity := entity_eq_of_facts hfacts
      have hedges : b₁.schema.edges = b.schema.edges := congrArg Facts.edges hfacts
      simp only [hb₂]
      cases complete with
      | true =>
        have hs : Settled view t₂.registry b₁.schema.edges parents := hedges.symm ▸ hsettled parents rfl
        obtain ⟨hlast, hready, hholds⟩ : Passage view visiting t₂.registry [] _ ∧ _ ∧ _ :=
          hs.settle (hentity.symm ▸ hb₂) hfresh hkept (hentity.symm ▸ hnew)
        rw [hentity] at hready hholds
        refine ⟨?_, fun p hp _ => ?_⟩
        · have hall := hpassage.trans hlast
          rwa [List.append_nil] at hall
        · obtain rfl := Except.ok.inj hp
          exact ⟨hready, hholds⟩
      | false =>
        have hlast := passage_put view visiting (hentity.symm ▸ hb₂)
          (b₁.settle_serial_le own b₁.own.generation parents false t₂.registry.serial)
        refine ⟨?_, fun p hp hc => ?_⟩
        · have hall := hpassage.trans hlast
          rwa [List.append_nil] at hall
        · obtain rfl := Except.ok.inj hp
          cases hc

/-- A traversal walks. -/
theorem walks_resolve (view : SourceView) :
    ∀ fuel : Nat, Walks view (resolve view fuel) (consultations view fuel)
  | 0 => ⟨continues_resolve view 0, fun _ _ _ => .refl _ _ _, fun _ _ _ _ hp => by cases hp⟩
  | fuel + 1 => by
      have hstep : ∀ (t : Traversal) (entity : String), entity ∉ t.visiting →
          Passage view t.visiting t.registry (consultations view (fuel + 1) t entity)
              (resolve view (fuel + 1) t entity).1.registry ∧
            ∀ p, (resolve view (fuel + 1) t entity).2 = .ok p → p.complete = true →
              Ready view (resolve view (fuel + 1) t entity).1.registry entity ∧
                (resolve view (fuel + 1) t entity).1.registry.Holds entity p := by
        intro t entity hnew
        have hget := passage_get view t.registry hnew
        unfold resolve consultations
        cases hg : t.registry.get entity with
        | mk r result =>
          rw [hg] at hget
          cases result with
          | error f => exact ⟨hget, fun p hp => by cases hp⟩
          | ok b =>
            have hb := get_ok hg
            obtain rfl := builder?_entity hb
            obtain ⟨hpassage, hanswer⟩ := (walks_resolve view fuel).compose
              (t := ⟨r, t.visiting ++ [b.entity]⟩) rfl hnew hb
            exact ⟨hget.trans hpassage, hanswer⟩
      exact ⟨continues_resolve view (fuel + 1), fun t entity hnew => (hstep t entity hnew).1,
        fun t entity hnew => (hstep t entity hnew).2⟩

/-! ### Requests -/

theorem course_inclusiveRestriction (r : Registry) (view : SourceView) (entity : String) :
    Course r (r.inclusiveConsultations view entity) (r.inclusiveRestriction view entity).1 := by
  rw [inclusiveRestriction_eq_resolve]
  exact ((walks_resolve view (r.typeBound + 1)).passage ⟨r, []⟩ entity List.not_mem_nil).course

/-- Behind a request with an answer, a type that reaches no cycle is ready and keeps the answer. -/
theorem ready_inclusiveRestriction {x : Restriction} (hacyclic : Facts.Acyclic r.facts entity)
    (hx : (r.inclusiveRestriction view entity).2 = .ok x) :
    Ready view (r.inclusiveRestriction view entity).1 entity ∧
      ∃ b, (r.inclusiveRestriction view entity).1.builder? entity = some b ∧
        b.inclusive.restriction = some x := by
  have hcomplete := complete_resolve view (r.typeBound + 1) ⟨r, []⟩ entity hacyclic
    fun v hv => (List.not_mem_nil hv).elim
  have hanswer := (walks_resolve view (r.typeBound + 1)).answer ⟨r, []⟩ entity List.not_mem_nil
  rw [inclusiveRestriction_eq_resolve] at hx ⊢
  cases hp : (resolve view (r.typeBound + 1) ⟨r, []⟩ entity).2 with
  | error f =>
    rw [hp] at hx
    cases hx
  | ok p =>
    rw [hp] at hx
    obtain rfl := Except.ok.inj hx
    obtain ⟨hready, b, hb, hrestriction, -⟩ := hanswer p hp (hcomplete p hp)
    exact ⟨hready, b, hb, hrestriction⟩

/-- All types that a ready type reaches are ready. -/
theorem Ready.reaches (h : Ready view r entity) (hreach : Facts.Reaches r.facts entity e) : Ready view r e := by
  obtain ⟨edges, hchain⟩ := hreach
  induction edges generalizing entity with
  | nil =>
    obtain rfl : entity = e := hchain
    exact h
  | cons edge rest ih =>
    obtain ⟨⟨known, hknown, he⟩, hrest⟩ := hchain
    cases h with
    | intro found _ _ _ _ ancestors =>
      obtain rfl := Except.ok.inj (hknown.symm.trans (facts_of_builder found))
      exact ih (ancestors edge he) hrest

end Registry

end RowAccess
