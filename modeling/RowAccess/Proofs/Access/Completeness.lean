import Mathlib.Data.List.Induction
import Mathlib.Tactic.Common
import RowAccess.Proofs.Access.Consulted
import RowAccess.Proofs.Access.Transparency
import RowAccess.Proofs.Registry.Whole

/-!
# Complete answers on every way

A traversal comes to a type on a way of edges, and what it answers there is complete exactly if the type reaches no
cycle: the way has no part in that. Nor has it in a complete answer. Over a run, whatever an inclusive slot holds was
made whole at some time: at that time it was put together from what the type and all its ancestors demanded, and
nothing but fields have become known of them since.
-/

namespace RowAccess

open RowAccess.Builder (Resolved)

/-! ### Steps of a run -/

namespace Registry

variable {r r' : Registry} {u : String} {x : Restriction}

/-- Classifying a field leaves what is kept of ancestors as it is. -/
theorem keeping_classify {entity field dimension : String}
    (hx : (r.classify entity field dimension).1.Keeping u x) : r.Keeping u x := by
  rcases r.classify_cases entity field dimension with ⟨f, heq⟩ | ⟨b, b', hb, rfl, hentity, hc, heq⟩
  · rw [heq] at hx
    exact keeping_get hx
  · rw [heq] at hx
    have hinclusive : b'.inclusive = b.inclusive := by
      rcases Builder.classify_cases hc with rfl | ⟨f, -, rfl⟩ <;> rfl
    have hfound : (r.get b.entity).1.builder? b'.entity = some b := by rw [hentity, hb]
    exact keeping_get ((puts_put hfound _).keeping hfound hinclusive hx)

theorem Classifies.keeping (h : r.Classifies r') (hx : r'.Keeping u x) : r.Keeping u x := by
  induction h with
  | refl => exact hx
  | classify _ entity field dimension ih => exact ih (keeping_classify hx)

end Registry

namespace Access

open Registry (Coherent Enters Gains Traversal resolve resolveParents)
open Facts (Acyclic Way Whole)

variable {promise : Promise} {a : Access} {line : Nat} {action : Action} {entity : String} {x : Restriction}

/-- What an action makes a registry keep is whole, by what is known then and held by what the line sees. -/
theorem RegistryStep.gains {r : Registry} (hs : RegistryStep a line action r) (hc : ∃ l, Coherent promise l a.registry)
    (hk : ∀ view ∈ a.sees line action, view.Keeps promise) :
    ∃ s, Gains a.registry.facts (a.view line s).tokens a.registry r := by
  obtain ⟨l, hc⟩ := hc
  cases hs with
  | classified h => exact ⟨.stack, h.course.later.gains h.keeping⟩
  | registered s => exact ⟨.stack, Registry.Later.gains ⟨fun hb => ⟨_, hb, .refl _⟩⟩ id⟩
  | got entity => exact ⟨.stack, Registry.gains_get rfl⟩
  | switched s => exact ⟨.stack, Registry.Later.gains ⟨fun hb => ⟨_, hb, .refl _⟩⟩ id⟩
  | own hview entity => exact ⟨.stack, Registry.gains_ownRestriction _ _ entity⟩
  | inclusive hview entity =>
    obtain ⟨s, rfl⟩ := sees_view hview
    exact ⟨s, Registry.gains_inclusiveRestriction (hk _ hview) hc entity⟩

/-- A content was made whole at some time of a run, under tokens that a line saw of a source then, and the builders of
a registry still have all parts of it. -/
def MadeWhole (start : Access) (acts : List (Nat × Action)) (r : Registry) (entity : String)
    (content : Option Predicate) : Prop :=
  ∃ before after line s, acts = before ++ after ∧
    Whole (r.covered (start.run before).1.registry.facts ((start.run before).1.view line s).tokens) entity content

variable {start : Access} {acts more : List (Nat × Action)} {r r' : Registry} {content : Option Predicate}

theorem MadeWhole.later (h : MadeWhole start acts r entity content) (hl : Registry.Later r r') :
    MadeWhole start (acts ++ more) r' entity content := by
  obtain ⟨before, after, line, s, rfl, hw⟩ := h
  exact ⟨before, after ++ more, line, s, List.append_assoc _ _ _, hl.whole hw⟩

/-- A registry that comes to keep whole contents has, with those that were made whole before, none but such. -/
theorem MadeWhole.gains (h : ∀ {entity x}, r.Keeping entity x → MadeWhole start acts r entity x.content) {s : SourceRef}
    (hg : Gains (start.run acts).1.registry.facts ((start.run acts).1.view line s).tokens r r')
    (hx : r'.Keeping entity x) : MadeWhole start (acts ++ more) r' entity x.content := by
  rcases hg.whole hx with hx | hw
  · exact (h hx).later hg.later
  · exact ⟨acts, more, line, s, rfl, hw⟩

/-- Over a run that begins with nothing kept, all that comes to be kept was made whole. -/
theorem madeWhole_run (hnew : ∀ {entity x}, ¬ start.registry.Keeping entity x)
    (hc : ∃ l, Coherent promise l start.registry) (hk : ∀ view ∈ start.observed acts, view.Keeps promise) :
    ∀ {entity x}, (start.run acts).1.registry.Keeping entity x →
      MadeWhole start acts (start.run acts).1.registry entity x.content := by
  induction acts using List.reverseRecOn with
  | nil => exact fun hx => absurd hx hnew
  | append_singleton acts step ih =>
    intro entity x hx
    rw [observed_append] at hk
    have hbefore : ∀ view ∈ start.observed acts, view.Keeps promise := fun view hview =>
      hk view (List.mem_append_left _ hview)
    have hlast : ∀ view ∈ (start.run acts).1.sees step.1 step.2, view.Keeps promise := fun view hview =>
      hk view (List.mem_append_right _ (List.mem_append_left _ hview))
    obtain ⟨s, hgains⟩ := (perform_registry (start.run acts).1 step.1 step.2).gains (coherent_run hc hbefore) hlast
    rw [run_append] at hx ⊢
    exact MadeWhole.gains (ih hbefore) hgains hx

/-- Wherever a traversal comes after a run with faithful sources, the registry is coherent and keeps nothing but what
was made whole. -/
theorem madeWhole_enters {c : Catalog} {m : Matcher} {s : SourceRef} {first : String} {t : Traversal}
    (h : Enters (((separate c m).run acts).1.view line s) ((separate c m).run acts).1.registry first t entity)
    (hf : Faithful ((separate c m).observed (acts ++ [(line, .inclusiveRestriction (some s) first)]))) :
    (∃ promise l, (((separate c m).run acts).1.view line s).Keeps promise ∧ Coherent promise l t.registry) ∧
      ∀ {entity x}, t.registry.Keeping entity x → MadeWhole (separate c m) acts t.registry entity x.content := by
  obtain ⟨promise, hk⟩ := exists_promise hf
  rw [observed_append] at hk
  have hnew : ∀ {entity x}, ¬ (separate c m).registry.Keeping entity x := fun ⟨b, hb, _⟩ => nomatch hb
  have hstart : ∃ l, Coherent promise l (separate c m).registry := ⟨.empty, Registry.coherent_new promise c⟩
  have hbefore : ∀ view ∈ (separate c m).observed acts, view.Keeps promise := fun view hview =>
    hk view (List.mem_append_left _ hview)
  have hkeeps : (((separate c m).run acts).1.view line s).Keeps promise :=
    hk _ (List.mem_append_right _ (List.mem_append_left _ (List.mem_singleton_self _)))
  obtain ⟨l, hrun⟩ := coherent_run hstart hbefore
  obtain ⟨⟨l', hcoherent⟩, hgains⟩ := h.gains hkeeps hrun
  refine ⟨⟨promise, l', hkeeps, hcoherent⟩, fun hx => ?_⟩
  have hmade : MadeWhole (separate c m) (acts ++ []) _ _ _ :=
    MadeWhole.gains (madeWhole_run hnew hstart hbefore) hgains hx
  rwa [List.append_nil] at hmade

/-- Wherever a traversal comes, in any state of any run: it comes there on a way of edges. Whatever way leads to a type,
an answer for it is complete exactly if the type reaches no cycle; a complete answer is the same object, with the same
effect on the registry, on any other way; and with faithful sources it is the one content that is whole by what is
known and held. With faithful sources, whatever a builder keeps for its type and the ancestors was made whole: no
ancestor is left out, and the type reaches no cycle. -/
theorem complete_iff_acyclic (c : Catalog) (m : Matcher) (acts : List (Nat × Action)) (line : Nat) (s : SourceRef)
    (first entity : String) (t : Traversal)
    (h : Enters (((separate c m).run acts).1.view line s) ((separate c m).run acts).1.registry first t entity) :
    let a := ((separate c m).run acts).1
    let facts := a.registry.facts
    let view := a.view line s
    let looks := (separate c m).observed (acts ++ [(line, .inclusiveRestriction (some s) first)])
    Way facts t.visiting entity ∧
    (∀ visiting target fuel t' p, Way facts visiting target →
      resolve view fuel ⟨t.registry, visiting⟩ target = (t', .ok p) →
        (p.complete = true ↔ Acyclic facts target) ∧
        (p.complete = true →
          (∀ other, Way facts other target →
            resolve view fuel ⟨t.registry, other⟩ target = (⟨t'.registry, other⟩, .ok p)) ∧
          (Faithful looks → ∀ content,
            Whole (Facts.parts facts view.tokens) target content ↔ content = p.restriction.content))) ∧
    (Faithful looks → ∀ target x, t.registry.Keeping target x →
      Acyclic facts target ∧ MadeWhole (separate c m) acts t.registry target x.content) := by
  intro a facts view looks
  obtain ⟨hfacts, hway⟩ := h.way
  refine ⟨hway, fun visiting target fuel t' p hto hp => ?_, fun hf target x hx => ?_⟩
  · have hiff := Registry.complete_iff hp (hfacts.symm ▸ hto)
    rw [hfacts] at hiff
    refine ⟨hiff, fun hcomplete => ⟨fun other hother => ?_, fun hf content => ?_⟩⟩
    · have hclear {visiting} (hway : Way facts visiting target) : Registry.Clear t.registry.facts visiting target :=
        hfacts.symm ▸ hway.clear (hiff.mp hcomplete)
      have hsame := Registry.resolve_elsewhere view fuel ⟨t.registry, visiting⟩ (hclear hto) (hclear hother)
      rw [Registry.SameElsewhere, hp] at hsame
      exact hsame
    · obtain ⟨⟨promise, l, hkeeps, hc⟩, -⟩ := madeWhole_enters h hf
      have hwhole := Registry.whole_of_complete (t := ⟨t.registry, visiting⟩) hkeeps hc (congrArg Prod.snd hp) hcomplete
      rw [hfacts] at hwhole
      exact ⟨fun hw => hw.unique hwhole, fun heq => heq ▸ hwhole⟩
  · have hmade := (madeWhole_enters h hf).2 hx
    refine ⟨?_, hmade⟩
    obtain ⟨_, _, _, _, -, hw⟩ := hmade
    have hacyclic := Registry.acyclic_of_covered hw
    rwa [hfacts] at hacyclic

/-- Two ways from one type to another, and a type with an edge to itself. -/
def crossing : Catalog :=
  [⟨"a", [], [⟨"left", "b"⟩, ⟨"right", "c"⟩]⟩, ⟨"b", [], [⟨"down", "d"⟩]⟩, ⟨"c", [], [⟨"down", "d"⟩, ⟨"self", "c"⟩]⟩,
    ⟨"d", [⟨"region", .text, "d", some "region"⟩], []⟩]

/-- A table of tokens, and a request that keeps something of it. -/
def crossingRun : List (Nat × Action) :=
  [(0, .addSource (.static 0 [("region", ["EU"])])), (0, .inclusiveRestriction (some (.made 0)) "b")]

/-- A traversal comes to the second type; from there, or on any other way, it can be asked for the others. -/
theorem enters_crossing :
    let a := ((separate crossing .standard).run crossingRun).1
    let view := a.view 0 (.made 0)
    ∃ t, Enters view a.registry "a" t "b" ∧ t.visiting = ["a"] ∧
      (∃ t' p, resolve view 1 ⟨t.registry, ["a", "b"]⟩ "d" = (t', .ok p) ∧ p.complete = true) ∧
      (∃ t' p, resolve view 2 ⟨t.registry, ["a"]⟩ "c" = (t', .ok p) ∧ p.complete = false) ∧
      ∃ x, t.registry.Keeping "b" x := by
  intro a view
  have hfirst : Enters view a.registry "a" ⟨a.registry, []⟩ "a" := .first
  have hsecond := hfirst.along rfl rfl (show _ = [] ++ _ from rfl) (show resolveParents (resolve _ 0) _ _ = _ from rfl)
    (by decide)
  exact ⟨_, hsecond, rfl, ⟨_, _, rfl, rfl⟩, ⟨_, _, rfl, rfl⟩, _, _, rfl, rfl⟩

theorem complete_iff_acyclic_crossing :
    let a := ((separate crossing .standard).run crossingRun).1
    let view := a.view 0 (.made 0)
    ∃ t t' p x, Enters view a.registry "a" t "b" ∧ Way a.registry.facts ["a"] "b" ∧
      Acyclic a.registry.facts "d" ∧ ¬ Acyclic a.registry.facts "c" ∧
      resolve view 1 ⟨t.registry, ["a", "b"]⟩ "d" = (t', .ok p) ∧
      resolve view 1 ⟨t.registry, ["a", "c"]⟩ "d" = (⟨t'.registry, ["a", "c"]⟩, .ok p) ∧
      Whole (Facts.parts a.registry.facts view.tokens) "d" p.restriction.content ∧
      t.registry.Keeping "b" x ∧ MadeWhole (separate crossing .standard) crossingRun t.registry "b" x.content := by
  intro a view
  have htables : (separate crossing .standard).observed
      (crossingRun ++ [(0, .inclusiveRestriction (some (.made 0)) "a")]) =
      [(0, Source.static 0 [("region", ["EU"])]), (0, .static 0 [("region", ["EU"])])].map
        fun x => x.2.view x.1 := rfl
  have hfaithful : Faithful ((separate crossing .standard).observed
      (crossingRun ++ [(0, .inclusiveRestriction (some (.made 0)) "a")])) := by
    rw [htables]
    exact faithful_of_tables (by decide) (by decide)
  have hleft : ∃ known, a.registry.facts "a" = .ok known ∧ ⟨"left", "b"⟩ ∈ known.edges := ⟨_, rfl, List.mem_cons_self⟩
  have hright : ∃ known, a.registry.facts "a" = .ok known ∧ ⟨"right", "c"⟩ ∈ known.edges :=
    ⟨_, rfl, List.mem_cons_of_mem _ List.mem_cons_self⟩
  have hdown : ∀ entity ∈ ["b", "c"], ∃ known, a.registry.facts entity = .ok known ∧ ⟨"down", "d"⟩ ∈ known.edges := by
    simp only [List.forall_mem_cons, List.not_mem_nil, false_imp_iff, implies_true, and_true]
    exact ⟨⟨_, rfl, List.mem_cons_self⟩, _, rfl, List.mem_cons_self⟩
  obtain ⟨t, henters, hvisiting, ⟨t', p, hp, hcomplete⟩, ⟨u, q, hq, hcut⟩, x, hx⟩ := enters_crossing
  obtain ⟨hway, hanswers, hkept⟩ := complete_iff_acyclic crossing .standard crossingRun 0 (.made 0) "a" "b" t henters
  obtain ⟨hacyclic, hthere⟩ := hanswers ["a", "b"] "d" 1 t' p
    ⟨"a", [⟨"left", "b"⟩, ⟨"down", "d"⟩], ⟨hleft, hdown "b" (by decide), rfl⟩, rfl, by decide⟩ hp
  obtain ⟨hsame, hwhole⟩ := hthere hcomplete
  obtain ⟨hcyclic, -⟩ := hanswers ["a"] "c" 2 u q ⟨"a", [⟨"right", "c"⟩], ⟨hright, rfl⟩, rfl, by decide⟩ hq
  have hother := hsame ["a", "c"]
    ⟨"a", [⟨"right", "c"⟩, ⟨"down", "d"⟩], ⟨hright, hdown "c" (by decide), rfl⟩, rfl, by decide⟩
  exact ⟨t, t', p, x, henters, hvisiting ▸ hway, hacyclic.mp hcomplete,
    fun h => absurd (hcyclic.mpr h) (by rw [hcut]; decide), hp, hother, (hwhole hfaithful _).mpr rfl, hx,
    (hkept hfaithful "b" x hx).2⟩

end Access

end RowAccess
