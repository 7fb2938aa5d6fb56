import Mathlib.Data.List.Basic
import Mathlib.Tactic.Common
import RowAccess.Proofs.Registry.Fault
import RowAccess.Proofs.Registry.Ready

/-!
# Requests that are made again

A request that is made again under the same tokens comes to the same, though the version of the source may have moved:
what was answered is kept by its fingerprint, and what failed fails again. `Registry.Ready` tells what an answer leaves
behind, and `Registry.Stuck` what a failure does: the way that was gone up to it, with all types off the way that had
been visited before ready. Gone again, the way ends as it did, and nothing is changed but versions.
-/

namespace RowAccess

open RowAccess.Builder (Resolved OwnOutcome OwnStep Steady)
open RowAccess.Facts (Reaches Acyclic)

/-! ### Own fields -/

namespace Builder

variable {promise : Promise} {b : Builder} {view view' : SourceView} {serial : Nat} {out : OwnOutcome} {f : Fault}
  {result : Except Fault (Restriction × Nat)}

theorem Steady.congr (h : b.Steady view) (hid : view'.id = view.id) (htokens : view'.tokens = view.tokens) :
    b.Steady view' :=
  ⟨hid ▸ h.source, h.built, htokens ▸ h.fingerprint⟩

/-- What a slot answers to the tokens of a source, whatever their version: what it has been built of them, or the fault
for which it is empty. -/
inductive Recalls (view : SourceView) (b : Builder) : Except Fault (Restriction × Nat) → Prop
  | answer {x : Restriction} (steady : b.Steady view) (held : b.own.restriction = some x) :
      Recalls view b (.ok (x, b.own.generation))
  | fault {f : Fault} (source : b.own.source = some view.id) (empty : b.own.restriction = none)
      (unmarked : b.own.fingerprint = none) (demand : Facts.demand view.tokens b.classified = .error f) :
      Recalls view b (.error f)

theorem Recalls.congr (h : b.Recalls view result) (hid : view'.id = view.id) (htokens : view'.tokens = view.tokens) :
    b.Recalls view' result := by
  cases h with
  | answer steady held => exact .answer (steady.congr hid htokens) held
  | fault source empty unmarked demand => exact .fault (hid ▸ source) empty unmarked (htokens ▸ demand)

theorem Recalls.restamped (h : b.Recalls view result) (version : Option Version) :
    (b.restamped version).Recalls view result := by
  cases h with
  | answer steady held =>
    have hsteady : (b.restamped version).Steady view := ⟨steady.source, steady.built, steady.fingerprint⟩
    exact .answer hsteady held
  | fault source empty unmarked demand => exact .fault source empty unmarked demand

/-- A request that fails leaves the fault behind. -/
theorem OwnStep.refused (h : OwnStep b view serial out) (hf : out.result = .error f) :
    out.builder.Recalls view (.error f) := by
  cases h with
  | byVersion => cases hf
  | byFingerprint => cases hf
  | failed g demand =>
    obtain rfl := Except.error.inj hf
    exact .fault (b.own.forSource_source view.id) rfl rfl demand
  | built => cases hf

/-- A request leaves its outcome behind. -/
theorem OwnStep.recalls (h : OwnStep b view serial out) (hs : out.builder.Stamped promise view.id)
    (hk : view.Honors promise) : out.builder.Recalls view out.result := by
  cases hresult : out.result with
  | error f => exact h.refused hresult
  | ok x =>
    obtain ⟨x, g⟩ := x
    obtain ⟨hfresh, hx, rfl⟩ := h.fresh hresult
    exact .answer (hfresh.steady hs hk) hx

/-- Asked again, a slot answers the same, and nothing but its version changes. -/
theorem Recalls.resolveOwn (h : b.Recalls view result) (serial : Nat) :
    ∃ version, b.resolveOwn view serial = ⟨b.restamped version, serial, result⟩ := by
  cases h with
  | answer steady held => exact ⟨view.version, steady.resolveOwn held serial⟩
  | @fault f source empty unmarked demand =>
    have hslot : b.own.forSource view.id = b.own := if_pos source
    have hversion : keptByVersion? b.own view.version = none := by
      unfold keptByVersion?
      rw [empty, ite_self]
    have hprint : keptByFingerprint? b.own (Fingerprint.ofHeld (b.held view)) = none := by
      unfold keptByFingerprint?
      rw [empty, ite_self]
    have hown : b.own.invalidate = { b.own with version := none } := by
      simp only [OwnSlot.invalidate, empty, unmarked]
    refine ⟨none, ?_⟩
    unfold Builder.resolveOwn
    simp only [hslot, hversion, hprint, demand_held, demand, hown]
    rfl

end Builder

namespace Registry

variable {promise : Promise} {view view' : SourceView} {r r' r'' : Registry} {entity : String} {b : Builder} {f : Fault}
  {visiting : List String}

/-! ### Registries up to versions -/

/-- A registry with the same builders, but for the versions in their own slots. -/
structure Restamps (r r' : Registry) : Prop where
  catalog : r'.catalog = r.catalog
  builders : ∀ e, ∃ version, r'.builder? e = (r.builder? e).map (Builder.restamped version)

theorem Restamps.refl (r : Registry) : Restamps r r where
  catalog := rfl
  builders e := by
    cases hb : r.builder? e with
    | none => exact ⟨none, rfl⟩
    | some b => exact ⟨b.own.version, rfl⟩

theorem Restamps.found (h : Restamps r r') (hb : r.builder? entity = some b) :
    ∃ version, r'.builder? entity = some (b.restamped version) := by
  obtain ⟨version, heq⟩ := h.builders entity
  exact ⟨version, heq.trans (congrArg (Option.map _) hb)⟩

theorem Restamps.facts (h : Restamps r r') : r'.facts = r.facts := by
  funext e
  obtain ⟨version, heq⟩ := h.builders e
  rw [facts_eq, facts_eq, heq, h.catalog]
  cases r.builder? e <;> rfl

/-- A builder that is put back with another version. -/
theorem Restamps.put (h : Restamps r r') (hb : r.builder? b.entity = some b) (version : Option Version)
    (serial : Nat) : Restamps r (({ r' with serial } : Registry).put (b.restamped version)) where
  catalog := h.catalog
  builders e := by
    rw [builder?_put]
    split
    next he =>
      obtain ⟨w, hw⟩ := h.found hb
      refine ⟨version, ?_⟩
      rw [show e = b.entity from he, hb]
      exact congrArg (Option.map _) hw
    next => exact h.builders e

/-- A request for own fields that is made again. -/
theorem Restamps.resolveOwn {result : Except Fault (Restriction × Nat)} (h : Restamps r r')
    (hb : r.builder? b.entity = some b) (hown : b.Recalls view result) (version : Option Version) :
    ∃ t, r'.resolveOwn view (b.restamped version) = (t, result) ∧ Restamps r t := by
  obtain ⟨w, heq⟩ := (hown.restamped version).resolveOwn r'.serial
  unfold Registry.resolveOwn
  rw [heq]
  exact ⟨_, rfl, h.put hb w r'.serial⟩

/-- Own fields are answered the same when they are asked for again. -/
theorem ownRestriction_again (hid : view'.id = view.id) (htokens : view'.tokens = view.tokens)
    (hk : view.Honors promise)
    (hs : Everywhere (fun _ b => b.Stamped promise view.id) (r.ownRestriction view entity).1) :
    ((r.ownRestriction view entity).1.ownRestriction view' entity).2 = (r.ownRestriction view entity).2 := by
  obtain ⟨f, hg, heq⟩ | ⟨r₁, b, -, hb, rfl, heq⟩ := r.ownRestriction_cases view entity
  · rw [heq, ownRestriction_of_get_error hg view']
  · rw [heq] at hs ⊢
    have hput := (puts_resolveOwn hb view).self
    have hrecalls := (b.resolveOwn_step view r₁.serial).recalls (hs _ _ hput) hk
    obtain ⟨_, hsame⟩ := (hrecalls.congr hid htokens).resolveOwn (r₁.resolveOwn view b).1.serial
    rw [ownRestriction_of_get (get_found hput) view']
    unfold Registry.resolveOwn at hsame ⊢
    rw [hsame]

/-! ### What a failure leaves behind -/

/-- The way that a request failed on. Nothing is known of the type at its end, or the own fields of that type demand
nothing. The types before it were consulted, and those that their earlier edges lead to are ready. -/
inductive Stuck (view : SourceView) (r : Registry) (f : Fault) : String → Prop
  | unknown {entity : String} (h : r.facts entity = .error f) : Stuck view r f entity
  | refused {entity : String} {b : Builder} (found : r.builder? entity = some b) (own : b.Recalls view (.error f)) :
      Stuck view r f entity
  | behind {entity : String} {b : Builder} {before after : List Edge} {e : Edge} (found : r.builder? entity = some b)
      (own : b.Fresh view) (edges : b.schema.edges = before ++ e :: after)
      (settled : ∀ d ∈ before, Ready view r d.target) (stuck : Stuck view r f e.target) : Stuck view r f entity

/-- A type from which no cycle is within reach, and no type that is being visited. -/
def Clear (facts : String → Except Fault Facts) (visiting : List String) (entity : String) : Prop :=
  Acyclic facts entity ∧ ∀ v ∈ visiting, ¬ Reaches facts entity v

variable {facts : String → Except Fault Facts} {known : Facts} {e : Edge}

theorem Clear.not_mem (h : Clear facts visiting entity) : entity ∉ visiting :=
  fun hin => h.2 entity hin (.refl facts entity)

/-- No edge of a type leads back to it. -/
theorem Clear.edge (h : Clear facts visiting entity) (hknown : facts entity = .ok known) (he : e ∈ known.edges) :
    Clear facts (visiting ++ [entity]) e.target := by
  have hedge := Facts.reaches_edge hknown he
  refine ⟨h.1.of_reaches hedge, fun v hv hreach => ?_⟩
  rcases List.mem_append.mp hv with hv | hv
  · exact h.2 v hv (hedge.trans hreach)
  · rw [List.mem_singleton.mp hv] at hreach
    exact h.1.not_back hknown he hreach

/-- A visit of a clear type that has an answer leaves the type ready. -/
theorem Visit.ready {t t' : Traversal} {depth : Nat} {stays : List Stay} {p : Resolved}
    (h : Visit view t entity depth stays (t', .ok p)) (hclear : Clear t.registry.facts t.visiting entity) :
    Ready view t'.registry entity := by
  have hout := h.resolve_eq depth (Nat.le_refl _)
  have hanswer := (walks_resolve view (depth + 1)).answer t entity hclear.not_mem p
  have hcomplete := complete_resolve view (depth + 1) t entity hclear.1 hclear.2 p
  rw [hout] at hanswer hcomplete
  exact (hanswer rfl (hcomplete rfl)).1

/-- A visit leaves the types being visited as they are. -/
theorem Visit.continues {t : Traversal} {depth : Nat} {stays : List Stay} {out : Traversal × Except Fault Resolved}
    (h : Visit view t entity depth stays out) : Continues t out.1 :=
  h.resolve_eq depth (Nat.le_refl _) ▸ continues_resolve view (depth + 1) t entity

/-- A walk leaves ready types and those being visited alone. -/
theorem Walk.passage {t : Traversal} {edges : List Edge} {depth : Nat} {stays : List Stay}
    {out : Traversal × Except Fault (List (Edge × Resolved) × Bool)} (h : Walk view t edges depth stays out) :
    ∃ log, Passage view t.visiting t.registry log out.1.registry :=
  ⟨_, h.resolveParents_eq depth (Nat.le_refl _) ▸ ((walks_resolve view (depth + 1)).parents edges t).1⟩

mutual

/-- A visit of a clear type that fails leaves its way behind. -/
theorem Visit.stuck {t : Traversal} {entity : String} {depth : Nat} {stays : List Stay}
    {out : Traversal × Except Fault Resolved} :
    Visit view t entity depth stays out → Clear t.registry.facts t.visiting entity →
      ∀ f, out.2 = .error f → Stuck view out.1.registry f entity
  | .unknown hget, _ => by
      intro f hf
      have hext := extends_of_get hget
      obtain rfl := Except.error.inj hf
      exact .unknown (hext.facts ▸ facts_of_get (congrArg Prod.snd hget))
  | .unread hget hown hout, _ => by
      intro f hf
      have hb := get_ok hget
      obtain rfl := builder?_entity hb
      have hput := (puts_resolveOwn hb view).self
      rw [hown] at hput
      subst hout
      obtain rfl := Except.error.inj hf
      exact .refused hput ((Builder.resolveOwn_step _ view _).refused (congrArg Prod.snd hown))
  | .known (b := b) (r := r) hget hown hwalk hout, hclear => by
      have hlater := hwalk.stuck
      obtain ⟨log, hpassage⟩ := hwalk.passage
      intro f hf
      have hext := extends_of_get hget
      have hb := get_ok hget
      obtain rfl := builder?_entity hb
      have hknown : t.registry.facts b.entity = .ok b.facts := hext.facts ▸ facts_of_builder hb
      have hread := extends_resolveOwn hb view
      have hput := (puts_resolveOwn hb view).self
      rw [hown] at hread hput
      obtain ⟨hfresh, -⟩ := (b.resolveOwn_step view r.serial).fresh (congrArg Prod.snd hown)
      have hfacts := facts_resolveOwn b view r.serial
      -- The type is being visited until the walk fails, so its builder is as its own fields left it.
      have hfound := (hpassage.visiting _ (List.mem_append_right _ (List.mem_singleton_self _))).trans hput
      subst hout
      have hfailed := conclude_error hfound hf
      obtain ⟨before, e, after, hedges, hbefore, hstuck⟩ := hlater (fun e he => by
        rw [(hext.trans hread).facts]
        exact hclear.edge hknown he) f (congrArg Prod.snd hfailed)
      rw [hfailed]
      exact .behind hfound hfresh ((congrArg Facts.edges hfacts).trans hedges) hbefore hstuck

theorem Walk.stuck {t : Traversal} {edges : List Edge} {depth : Nat} {stays : List Stay}
    {out : Traversal × Except Fault (List (Edge × Resolved) × Bool)} :
    Walk view t edges depth stays out → (∀ e ∈ edges, Clear t.registry.facts t.visiting e.target) →
      ∀ f, out.2 = .error f → ∃ before e after, edges = before ++ e :: after ∧
        (∀ d ∈ before, Ready view out.1.registry d.target) ∧ Stuck view out.1.registry f e.target
  | .done, _ => nofun
  | .cut h _, hclear => absurd h (hclear _ List.mem_cons_self).not_mem
  | .failed _ hvisit, hclear => by
      have hstuck := hvisit.stuck (hclear _ List.mem_cons_self)
      intro f hf
      obtain rfl := Except.error.inj hf
      exact ⟨[], _, _, rfl, nofun, hstuck _ rfl⟩
  | .visited _ hvisit hrest, hclear => by
      have hfirst := hclear _ List.mem_cons_self
      have hcont := hvisit.continues
      have hlater := hrest.stuck fun e he => by
        rw [hcont.extension.facts, hcont.visiting]
        exact hclear e (List.mem_cons_of_mem _ he)
      obtain ⟨log, hpassage⟩ := hrest.passage
      intro f hf
      obtain ⟨before, e, after, rfl, hbefore, hstuck⟩ := hlater f (error_of_map hf)
      refine ⟨_ :: before, e, after, rfl, fun d hd => ?_, hstuck⟩
      rcases List.mem_cons.mp hd with rfl | hd
      · exact hpassage.stays (hvisit.ready hfirst)
      · exact hbefore d hd

end

/-! ### The way gone again -/

/-- Wherever only versions differ from a registry, a visit comes to a result and changes versions only. -/
def VisitsTo (view : SourceView) (r : Registry) (visiting : List String) (entity : String)
    (result : Except Fault Resolved) : Prop :=
  ∀ t : Traversal, t.visiting = visiting → Restamps r t.registry →
    ∃ depth stays t', Visit view t entity depth stays (t', result) ∧ t'.visiting = visiting ∧ Restamps r t'.registry

/-- Wherever only versions differ from a registry, a walk comes to a result and changes versions only. -/
def WalksTo (view : SourceView) (r : Registry) (visiting : List String) (edges : List Edge)
    (result : Except Fault (List (Edge × Resolved) × Bool)) : Prop :=
  ∀ t : Traversal, t.visiting = visiting → Restamps r t.registry →
    ∃ depth stays t', Walk view t edges depth stays (t', result) ∧ t'.visiting = visiting ∧ Restamps r t'.registry

section Walks

variable {rest before after : List Edge} {p : Resolved} {result : Except Fault (List (Edge × Resolved) × Bool)}

theorem WalksTo.nil : WalksTo view r visiting [] (.ok ([], true)) :=
  fun t hvis ht => ⟨0, [], t, .done, hvis, ht⟩

theorem WalksTo.fail (hnew : e.target ∉ visiting) (h : VisitsTo view r visiting e.target (.error f)) :
    WalksTo view r visiting (e :: rest) (.error f) := by
  intro t hvis ht
  obtain ⟨depth, stays, t', hvisit, hvis', ht'⟩ := h t hvis ht
  exact ⟨depth, stays, t', .failed (hvis ▸ hnew) hvisit, hvis', ht'⟩

theorem WalksTo.cons (hnew : e.target ∉ visiting) (h : VisitsTo view r visiting e.target (.ok p))
    (hrest : WalksTo view r visiting rest result) :
    WalksTo view r visiting (e :: rest) (result.map fun x => ((e, p) :: x.1, p.complete && x.2)) := by
  intro t hvis ht
  obtain ⟨depth, stays, t', hvisit, hvis', ht'⟩ := h t hvis ht
  obtain ⟨depth', stays', t'', hwalk, hvis'', ht''⟩ := hrest t' hvis' ht'
  exact ⟨_, _, t'', .visited (hvis ▸ hnew) hvisit hwalk, hvis'', ht''⟩

/-- Types that all have an answer are parents. -/
theorem walksTo_parents : ∀ {edges : List Edge},
    (∀ e ∈ edges, e.target ∉ visiting ∧
      ∃ p, VisitsTo view r visiting e.target (.ok p) ∧ r.Holds e.target p ∧ p.complete = true) →
    ∃ parents, WalksTo view r visiting edges (.ok (parents, true)) ∧ parents.map Prod.fst = edges ∧
      ∀ p ∈ parents, r.Holds p.1.target p.2
  | [], _ => ⟨[], .nil, rfl, nofun⟩
  | e :: rest, h => by
      obtain ⟨hnew, p, hvisit, hholds, hcomplete⟩ := h e List.mem_cons_self
      obtain ⟨parents, hwalk, hedges, hheld⟩ := walksTo_parents fun e' he' => h e' (List.mem_cons_of_mem _ he')
      refine ⟨(e, p) :: parents, ?_, congrArg (e :: ·) hedges, List.forall_mem_cons.mpr ⟨hholds, hheld⟩⟩
      have hcons := WalksTo.cons hnew hvisit hwalk
      rwa [hcomplete] at hcons

/-- Behind types that have an answer, a walk fails with the first type that fails. -/
theorem walksTo_error (hnew : e.target ∉ visiting) (hfails : VisitsTo view r visiting e.target (.error f)) :
    ∀ {before : List Edge}, (∀ d ∈ before, d.target ∉ visiting ∧ ∃ p, VisitsTo view r visiting d.target (.ok p)) →
      WalksTo view r visiting (before ++ e :: after) (.error f)
  | [], _ => .fail hnew hfails
  | d :: before, h => by
      obtain ⟨hnewd, p, hvisit⟩ := h d List.mem_cons_self
      exact .cons hnewd hvisit (walksTo_error hnew hfails fun d' hd' => h d' (List.mem_cons_of_mem _ hd'))

end Walks

section Visits

variable {x y : Restriction} {g : Nat} {parents : List (Edge × Resolved)}

theorem visitsTo_unknown (h : r.facts entity = .error f) : VisitsTo view r visiting entity (.error f) := by
  intro t hvis ht
  obtain ⟨-, hget⟩ := get_error (ht.facts ▸ h)
  exact ⟨0, [], t, .unknown hget, hvis, ht⟩

theorem visitsTo_refused (hb : r.builder? b.entity = some b) (hown : b.Recalls view (.error f)) :
    VisitsTo view r visiting b.entity (.error f) := by
  intro t hvis ht
  obtain ⟨version, hfound⟩ := ht.found hb
  obtain ⟨r', hread, hr'⟩ := ht.resolveOwn hb hown version
  refine ⟨1, _, _, .unread (get_found hfound) hread rfl, ?_, hr'⟩
  exact List.dropLast_concat.trans hvis

/-- A visit is as far as its own fields and its walk are the same again. -/
theorem visitsTo_walked (hb : r.builder? b.entity = some b) (hown : b.Recalls view (.ok (x, g)))
    {walked : Except Fault (List (Edge × Resolved) × Bool)} {result : Except Fault Resolved}
    (hwalk : WalksTo view r (visiting ++ [b.entity]) b.schema.edges walked)
    (hlast : ∀ t : Traversal, Restamps r t.registry → ∃ r', conclude b.entity x g (t, walked) =
      ({ t with registry := r' }, result) ∧ Restamps r r') :
    VisitsTo view r visiting b.entity result := by
  intro t hvis ht
  obtain ⟨version, hfound⟩ := ht.found hb
  obtain ⟨r', hread, hr'⟩ := ht.resolveOwn hb hown version
  obtain ⟨depth, stays, t', hwalk, hvis', ht'⟩ := hwalk ⟨r', t.visiting ++ [b.entity]⟩ (by rw [hvis]) hr'
  obtain ⟨r'', hconclude, hr''⟩ := hlast t' ht'
  refine ⟨depth + 1, _, _, .known (get_found hfound) hread hwalk (congrArg leave hconclude).symm, ?_, hr''⟩
  exact (congrArg List.dropLast hvis').trans List.dropLast_concat

/-- Where the walk fails again, so does the visit. -/
theorem visitsTo_failed (hb : r.builder? b.entity = some b) (hown : b.Recalls view (.ok (x, g)))
    (hwalk : WalksTo view r (visiting ++ [b.entity]) b.schema.edges (.error f)) :
    VisitsTo view r visiting b.entity (.error f) :=
  visitsTo_walked hb hown hwalk fun t ht => ⟨t.registry, rfl, ht⟩

/-- Where all parts have the generations that they had, what is kept is answered. -/
theorem visitsTo_kept (hb : r.builder? b.entity = some b) (hown : b.Recalls view (.ok (x, g)))
    (hwalk : WalksTo view r (visiting ++ [b.entity]) b.schema.edges (.ok (parents, true)))
    (hkept : b.inclusive.restriction = some y) (hsame : b.inclusive.ownGeneration = g)
    (hparents : b.inclusive.parentGenerations = parents.map fun p => p.2.generation) :
    VisitsTo view r visiting b.entity (.ok ⟨y, b.inclusive.generation, true⟩) := by
  refine visitsTo_walked hb hown hwalk fun t ht => ?_
  obtain ⟨version, hfound⟩ := ht.found hb
  have hsettle : (b.restamped version).settle x g parents true t.registry.serial =
      (b.restamped version, t.registry.serial, ⟨y, b.inclusive.generation, true⟩) :=
    Builder.settle_of_same (b := b.restamped version) hkept hsame hparents _
  refine ⟨_, ?_, ht.put hb version t.registry.serial⟩
  simp only [conclude, hfound, hsettle]

end Visits

/-- A type that is ready is answered from what is kept. -/
theorem Ready.visitsTo (h : Ready view r entity)
    (hsteady : ∀ {u b}, r.builder? u = some b → b.Fresh view → b.Steady view') :
    ∀ {visiting}, Clear r.facts visiting entity →
      ∃ p, VisitsTo view' r visiting entity (.ok p) ∧ r.Holds entity p ∧ p.complete = true := by
  induction h with
  | @intro entity b found own built sameOwn sameParents ancestors ih =>
    intro visiting hclear
    obtain rfl := builder?_entity found
    have hsteadyb := hsteady found own
    obtain ⟨x, hx⟩ := hsteadyb.built
    obtain ⟨y, hy⟩ := built
    obtain ⟨parents, hwalk, hedges, hheld⟩ : ∃ parents,
        WalksTo view' r (visiting ++ [b.entity]) b.schema.edges (.ok (parents, true)) ∧ _ :=
      walksTo_parents fun e he =>
        have hnext := hclear.edge (facts_of_builder found) he
        ⟨hnext.not_mem, ih e he hnext⟩
    exact ⟨_, visitsTo_kept found (.answer hsteadyb hx) hwalk hy sameOwn (generations_eq sameParents hedges hheld),
      ⟨b, found, hy, rfl⟩, rfl⟩

/-- A way that failed fails again. -/
theorem Stuck.visitsTo (h : Stuck view r f entity) (hid : view'.id = view.id) (htokens : view'.tokens = view.tokens)
    (hsteady : ∀ {u b}, r.builder? u = some b → b.Fresh view → b.Steady view') :
    ∀ {visiting}, Clear r.facts visiting entity → VisitsTo view' r visiting entity (.error f) := by
  induction h with
  | unknown h => exact fun _ => visitsTo_unknown h
  | refused found own =>
    obtain rfl := builder?_entity found
    exact fun _ => visitsTo_refused found (own.congr hid htokens)
  | @behind entity b before after e found own edges settled stuck ih =>
    intro visiting hclear
    obtain rfl := builder?_entity found
    have hsteadyb := hsteady found own
    obtain ⟨x, hx⟩ := hsteadyb.built
    have hnext : ∀ d ∈ before ++ e :: after, Clear r.facts (visiting ++ [b.entity]) d.target := by
      rw [← edges]
      exact fun d hd => hclear.edge (facts_of_builder found) hd
    have he := hnext e (List.mem_append_right _ List.mem_cons_self)
    refine visitsTo_failed found (.answer hsteadyb hx) (edges ▸ walksTo_error he.not_mem (ih he) fun d hd => ?_)
    have hd' := hnext d (List.mem_append_left _ hd)
    obtain ⟨p, hvisit, -⟩ := (settled d hd).visitsTo hsteady hd'
    exact ⟨hd'.not_mem, p, hvisit⟩

theorem inclusiveRestriction_of_visitsTo {result : Except Fault Resolved} (h : VisitsTo view r [] entity result) :
    (r.inclusiveRestriction view entity).2 = result.map Resolved.restriction := by
  obtain ⟨_, _, t, hvisit, -, -⟩ := h ⟨r, []⟩ rfl (.refl r)
  obtain ⟨_, _, hbounded⟩ := r.exists_visit view entity
  obtain ⟨-, -, hout⟩ := hvisit.unique hbounded
  rw [inclusiveRestriction_eq_resolve, hout]

/-- A type that reaches no cycle is answered the same, with all its ancestors, when it is asked for again. -/
theorem inclusiveRestriction_again (hacyclic : Acyclic r.facts entity) (hid : view'.id = view.id)
    (htokens : view'.tokens = view.tokens) (hk : view.Honors promise)
    (hs : Everywhere (fun _ b => b.Stamped promise view.id) (r.inclusiveRestriction view entity).1) :
    ((r.inclusiveRestriction view entity).1.inclusiveRestriction view' entity).2 =
      (r.inclusiveRestriction view entity).2 := by
  have hfacts := (extends_inclusiveRestriction r view entity).facts
  have hsteady : ∀ {u b}, (r.inclusiveRestriction view entity).1.builder? u = some b → b.Fresh view →
      b.Steady view' := fun hb hfresh => (hfresh.steady (hs _ _ hb) hk).congr hid htokens
  have hclear : Clear (r.inclusiveRestriction view entity).1.facts [] entity := ⟨hfacts ▸ hacyclic, nofun⟩
  cases hresult : (r.inclusiveRestriction view entity).2 with
  | ok x =>
    obtain ⟨hready, b, hb, hx⟩ := ready_inclusiveRestriction hacyclic hresult
    obtain ⟨p, hvisit, ⟨c, hc, hp, -⟩, -⟩ := hready.visitsTo hsteady hclear
    obtain rfl := Option.some.inj (hb.symm.trans hc)
    rw [inclusiveRestriction_of_visitsTo hvisit]
    exact congrArg Except.ok (Option.some.inj (hp.symm.trans hx))
  | error f =>
    have hstuck : Stuck view (r.inclusiveRestriction view entity).1 f entity := by
      obtain ⟨_, _, hvisit⟩ := r.exists_visit view entity
      have hstuck := hvisit.stuck ⟨hacyclic, nofun⟩ f
      rw [inclusiveRestriction_eq_resolve] at hresult ⊢
      exact hstuck (error_of_map hresult)
    exact inclusiveRestriction_of_visitsTo (hstuck.visitsTo hid htokens hsteady hclear)

end Registry

end RowAccess
