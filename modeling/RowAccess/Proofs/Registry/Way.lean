import Mathlib.Data.List.Nodup
import Mathlib.Tactic.Common
import RowAccess.Proofs.Registry.Replay

/-!
# Ways into a type

A traversal comes to a type along a chain of edges, and while it is there the types on that chain are being visited,
all different. Which chain it was does not matter to a complete answer: an answer is complete exactly if the type
reaches no cycle, and then the visit does the same to the registry and answers the same object on every way. A cycle
is cut on one way only if there is one within reach on every way, since the way itself leads to the type.
-/

namespace RowAccess

open RowAccess.Builder (Resolved)

namespace Facts

variable {facts : String → Except Fault Facts} {start stop entity v : String} {visiting : List String}
  {edges : List Edge} {known : Facts} {e : Edge}

/-! ### Chains and their types -/

/-- Every type on a chain leads to its end. -/
theorem Chain.reaches (h : Chain facts start edges stop) (hv : v ∈ visited start edges) : Reaches facts v stop := by
  induction edges generalizing start with
  | nil =>
    rw [List.mem_singleton.mp hv]
    exact ⟨[], h⟩
  | cons e rest ih =>
    rcases List.mem_cons.mp hv with rfl | hv
    · exact ⟨e :: rest, h⟩
    · exact ih h.2 hv

theorem visited_concat (start : String) (edges : List Edge) (e : Edge) :
    visited start (edges ++ [e]) = visited start edges ++ [e.target] := by
  rw [visited, visited, List.map_append, List.map_singleton, List.cons_append]

/-- Where no edge of a type leads to a type that reaches a cycle, the type reaches none itself. -/
theorem acyclic_of_edges
    (h : ∀ {known}, facts start = .ok known → ∀ e ∈ known.edges, Acyclic facts e.target) : Acyclic facts start := by
  rintro stop ⟨path, hpath⟩ edges hcycle
  cases path with
  | cons e rest =>
    obtain ⟨⟨known, hknown, he⟩, hrest⟩ := hpath
    exact h hknown e he stop ⟨rest, hrest⟩ edges hcycle
  | nil =>
    obtain rfl : start = stop := hpath
    cases edges with
    | nil => rfl
    | cons e rest =>
      -- A cycle through the type itself is one through the end of its first edge.
      obtain ⟨⟨known, hknown, he⟩, hrest⟩ := hcycle
      have hturned : Chain facts e.target (rest ++ [e]) e.target := hrest.append ⟨⟨known, hknown, he⟩, rfl⟩
      have hnone := h hknown e he e.target (.refl facts e.target) _ hturned
      exact absurd hnone (by simp)

/-! ### Ways -/

/-- The types being visited are those on a chain of edges to a type, which are all different. -/
def Way (facts : String → Except Fault Facts) (visiting : List String) (entity : String) : Prop :=
  ∃ start edges, Chain facts start edges entity ∧ visited start edges = visiting ++ [entity] ∧
    (visited start edges).Nodup

theorem Way.refl (facts : String → Except Fault Facts) (entity : String) : Way facts [] entity :=
  ⟨entity, [], rfl, rfl, List.nodup_singleton entity⟩

/-- A way goes on along an edge to a type that is not being visited. -/
theorem Way.edge (h : Way facts visiting entity) (hknown : facts entity = .ok known) (he : e ∈ known.edges)
    (hnew : e.target ∉ visiting ++ [entity]) : Way facts (visiting ++ [entity]) e.target := by
  obtain ⟨start, edges, hchain, htypes, hdistinct⟩ := h
  have htypes' : visited start (edges ++ [e]) = visiting ++ [entity] ++ [e.target] := by
    rw [visited_concat, htypes]
  refine ⟨start, edges ++ [e], hchain.append ⟨⟨known, hknown, he⟩, rfl⟩, htypes', ?_⟩
  rw [htypes', ← htypes, ← List.concat_eq_append]
  exact hdistinct.concat (htypes ▸ hnew)

theorem Way.not_mem (h : Way facts visiting entity) : entity ∉ visiting := by
  obtain ⟨start, edges, -, htypes, hdistinct⟩ := h
  rw [htypes] at hdistinct
  exact fun hin => List.disjoint_of_nodup_append hdistinct hin (List.mem_singleton_self entity)

/-- All types on a way lead to its end. -/
theorem Way.reaches (h : Way facts visiting entity) (hv : v ∈ visiting) : Reaches facts v entity := by
  obtain ⟨start, edges, hchain, htypes, -⟩ := h
  exact hchain.reaches (htypes ▸ List.mem_append_left _ hv)

/-- A type that reaches no cycle reaches none of the types on a way to it. -/
theorem Way.clear (h : Way facts visiting entity) (hacyclic : Acyclic facts entity) :
    Registry.Clear facts visiting entity := by
  refine ⟨hacyclic, ?_⟩
  rintro v hv ⟨back, hback⟩
  obtain ⟨forth, hforth⟩ := h.reaches hv
  have hnone := hacyclic entity (.refl facts entity) (back ++ forth) (hback.append hforth)
  obtain ⟨rfl, -⟩ := List.append_eq_nil_iff.mp hnone
  obtain rfl : entity = v := hback
  exact h.not_mem hv

end Facts

namespace Registry

open Facts (Acyclic Way)

variable {view : SourceView} {r : Registry} {t t' : Traversal} {entity first : String} {other : List String}
  {fuel : Nat} {p : Resolved} {out : Traversal × Except Fault Resolved}

/-! ### Complete answers -/

/-- A type that is ready reaches no cycle. -/
theorem Ready.acyclic (h : Ready view r entity) : Acyclic r.facts entity := by
  induction h with
  | intro found _ _ _ _ _ ih =>
    refine Facts.acyclic_of_edges fun hknown e he => ?_
    obtain rfl := Except.ok.inj (hknown.symm.trans (facts_of_builder found))
    exact ih e he

/-- On whatever way a traversal comes to a type, its answer is complete exactly if the type reaches no cycle. -/
theorem complete_iff (h : resolve view fuel t entity = (t', .ok p))
    (hway : Way t.registry.facts t.visiting entity) : p.complete = true ↔ Acyclic t.registry.facts entity := by
  constructor
  · intro hcomplete
    have hcont := continues_resolve view fuel t entity
    have hanswer := (walks_resolve view fuel).answer t entity hway.not_mem p
    rw [h] at hcont hanswer
    exact hcont.extension.facts ▸ (hanswer rfl hcomplete).1.acyclic
  · intro hacyclic
    obtain ⟨_, hback⟩ := hway.clear hacyclic
    exact complete_resolve view fuel t entity hacyclic hback p (congrArg Prod.snd h)

/-! ### The same answer on another way -/

theorem leave_concat (r : Registry) (visiting : List String) (entity : String) (result : Except Fault Resolved) :
    leave (⟨r, visiting ++ [entity]⟩, result) = (⟨r, visiting⟩, result) := by
  rw [leave, List.dropLast_concat]

/-- The types being visited have no part in what a composition comes to. -/
theorem conclude_elsewhere (entity : String) (own : Restriction) (generation : Nat)
    (walked : Traversal × Except Fault (List (Edge × Resolved) × Bool)) (other : List String) :
    conclude entity own generation (⟨walked.1.registry, other⟩, walked.2) =
      (⟨(conclude entity own generation walked).1.registry, other⟩, (conclude entity own generation walked).2) := by
  obtain ⟨t, result⟩ := walked
  cases result with
  | error f => rfl
  | ok x =>
    simp only [conclude]
    cases t.registry.builder? entity <;> rfl

/-- A visit does the same to the registry and answers the same where other types are being visited. -/
def SameElsewhere (visit : Traversal → String → Traversal × Except Fault Resolved) (other : List String)
    (t : Traversal) (entity : String) : Prop :=
  visit ⟨t.registry, other⟩ entity = (⟨(visit t entity).1.registry, other⟩, (visit t entity).2)

/-- So does a walk, if no edge leads to a type that is being visited on either of the two ways. -/
theorem parents_elsewhere {visit : Traversal → String → Traversal × Except Fault Resolved}
    {facts : String → Except Fault Facts} {visiting : List String} (hc : ∀ t entity, Continues t (visit t entity).1) :
    ∀ {edges : List Edge}, (∀ e ∈ edges, e.target ∉ visiting ∧ e.target ∉ other ∧
        ∀ t, t.registry.facts = facts → t.visiting = visiting → SameElsewhere visit other t e.target) →
      ∀ t, t.registry.facts = facts → t.visiting = visiting → resolveParents visit ⟨t.registry, other⟩ edges =
        (⟨(resolveParents visit t edges).1.registry, other⟩, (resolveParents visit t edges).2)
  | [], _, _, _, _ => rfl
  | e :: rest, h, t, hf, hvis => by
      obtain ⟨hnew, hother, hsame⟩ := h e List.mem_cons_self
      have hfirst : visit ⟨t.registry, other⟩ e.target = _ := hsame t hf hvis
      have hcont := hc t e.target
      cases hout : visit t e.target with
      | mk t' result =>
        rw [hout] at hfirst hcont
        cases result with
        | error f => rw [resolveParents_failed hother hfirst, resolveParents_failed (hvis ▸ hnew) hout]
        | ok p =>
          rw [resolveParents_visited hother hfirst, resolveParents_visited (hvis ▸ hnew) hout,
            parents_elsewhere hc (fun e he => h e (List.mem_cons_of_mem _ he)) t' (hcont.extension.facts.trans hf)
              (hcont.visiting.trans hvis)]

/-- The visit of a clear type comes to the same elsewhere, if the type is clear of the types being visited there. -/
theorem resolve_elsewhere (view : SourceView) : ∀ (fuel : Nat) (t : Traversal) {entity : String} {other : List String},
    Clear t.registry.facts t.visiting entity → Clear t.registry.facts other entity →
      SameElsewhere (resolve view fuel) other t entity
  | 0, _, _, _, _, _ => rfl
  | fuel + 1, t, entity, other, hclear, hother => by
      have hext := extends_get t.registry entity
      unfold SameElsewhere
      cases hg : t.registry.get entity with
      | mk r result =>
        rw [hg] at hext
        cases result with
        | error f => simp only [resolve, hg]
        | ok b =>
          have hb := get_ok hg
          obtain rfl := builder?_entity hb
          have hfacts : r.facts = t.registry.facts := hext.facts
          have hknown : t.registry.facts b.entity = .ok b.facts := hfacts ▸ facts_of_builder hb
          have hread := extends_resolveOwn hb view
          cases hown : r.resolveOwn view b with
          | mk r' result =>
            rw [hown] at hread
            cases result with
            | error f =>
              rw [resolve_unread hg hown, resolve_unread (t := ⟨t.registry, other⟩) hg hown, leave_concat]
              rfl
            | ok x =>
              have hsame : r'.facts = t.registry.facts := hread.facts.trans hfacts
              have hedges : ∀ e ∈ b.schema.edges, e.target ∉ t.visiting ++ [b.entity] ∧ e.target ∉ other ++ [b.entity] ∧
                  ∀ t', t'.registry.facts = t.registry.facts → t'.visiting = t.visiting ++ [b.entity] →
                    SameElsewhere (resolve view fuel) (other ++ [b.entity]) t' e.target := by
                intro e he
                have hnext := hclear.edge hknown he
                have hnext' := hother.edge hknown he
                refine ⟨hnext.not_mem, hnext'.not_mem, fun t' hf hvis => ?_⟩
                rw [← hf] at hnext hnext'
                exact resolve_elsewhere view fuel t' (hvis ▸ hnext) hnext'
              have hparents := parents_elsewhere (continues_resolve view fuel) hedges
                ⟨r', t.visiting ++ [b.entity]⟩ hsame rfl
              rw [resolve_known hg hown, resolve_known (t := ⟨t.registry, other⟩) hg hown, hparents,
                conclude_elsewhere, leave_concat]
              rfl

/-! ### Where a traversal comes -/

/-- A traversal from a type comes to a type: to the first one; or, while a type is visited, along one of its edges to
a type that is not being visited, with all earlier edges behind it. -/
inductive Enters (view : SourceView) (r : Registry) (first : String) : Traversal → String → Prop
  | first : Enters view r first ⟨r, []⟩ first
  | along {t t' : Traversal} {entity : String} {r₁ r₂ : Registry} {b : Builder} {own : Restriction} {generation : Nat}
      {before after : List Edge} {e : Edge} {fuel : Nat} {x : List (Edge × Resolved) × Bool}
      (h : Enters view r first t entity) (hget : t.registry.get entity = (r₁, .ok b))
      (hown : r₁.resolveOwn view b = (r₂, .ok (own, generation))) (hedges : b.schema.edges = before ++ e :: after)
      (hwalk : resolveParents (resolve view fuel) ⟨r₂, t.visiting ++ [entity]⟩ before = (t', .ok x))
      (hnew : e.target ∉ t'.visiting) : Enters view r first t' e.target

/-- Whatever was visited before, a traversal comes to a type on a way of edges. -/
theorem Enters.way (h : Enters view r first t entity) :
    t.registry.facts = r.facts ∧ Way r.facts t.visiting entity := by
  induction h with
  | first => exact ⟨rfl, .refl r.facts first⟩
  | @along t t' entity r₁ r₂ b own generation before after e fuel x _ hget hown hedges hwalk hnew ih =>
    obtain ⟨hfacts, hway⟩ := ih
    have hext := extends_of_get hget
    have hb := get_ok hget
    obtain rfl := builder?_entity hb
    have hknown : r.facts b.entity = .ok b.facts := hfacts ▸ hext.facts ▸ facts_of_builder hb
    have hread := hext.trans (extends_resolveOwn hb view)
    have hcont := continues_parents (continues_resolve view fuel) before ⟨r₂, t.visiting ++ [b.entity]⟩
    rw [hown] at hread
    rw [hwalk] at hcont
    have he : e ∈ b.facts.edges := by
      show e ∈ b.schema.edges
      rw [hedges]
      exact List.mem_append_right _ List.mem_cons_self
    rw [hcont.visiting] at hnew ⊢
    exact ⟨hcont.extension.facts.trans (hread.facts.trans hfacts), hway.edge hknown he hnew⟩

end Registry

end RowAccess
