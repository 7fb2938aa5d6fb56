import Mathlib.Data.List.Basic
import Mathlib.Tactic.Common
import RowAccess.Proofs.Registry.Since
import RowAccess.Proofs.Registry.Traversal
import RowAccess.Proofs.Registry.Way

/-!
# Restrictions that leave out no ancestor

`Facts.Whole` says of a content that it is put together from what the own fields of a type demand and from whole
contents of all types that its edges lead to. There is one for a type at most, and none for a type that reaches a
cycle. A complete answer is whole; and whatever a traversal puts into an inclusive slot, it puts there a complete
answer, so that no slot ever holds a content in which an ancestor is left out.
-/

namespace RowAccess

open RowAccess.Builder (Resolved)

namespace Facts

/-- What is known for putting contents together: of a type, its edges and what its own fields demand. -/
abbrev Parts := String → List Edge → Option Predicate → Prop

/-- A content that is put together from the own demand of a type and from whole contents along all its edges. -/
inductive Whole (parts : Parts) : String → Option Predicate → Prop
  | intro {entity : String} {own : Option Predicate} {ancestors : List (Edge × Option Predicate)}
      (part : parts entity (ancestors.map Prod.fst) own) (whole : ∀ p ∈ ancestors, Whole parts p.1.target p.2) :
      Whole parts entity (combine own (ancestors.map fun p => (p.1.name, p.2)))

/-- The parts by facts and tokens. -/
def parts (facts : String → Except Fault Facts) (tokens : String → List String) : Parts := fun entity edges own =>
  ∃ known, facts entity = .ok known ∧ known.edges = edges ∧ demand tokens known.classified = .ok own

variable {facts : String → Except Fault Facts} {tokens : String → List String} {entity : String}
  {content content' : Option Predicate} {ps ps' : Parts}

theorem Whole.mono (h : Whole ps entity content)
    (hsub : ∀ {entity edges own}, ps entity edges own → ps' entity edges own) : Whole ps' entity content := by
  induction h with
  | intro part _ ih => exact .intro (hsub part) ih

/-- A type with a whole content reaches no cycle. -/
theorem Whole.acyclic (h : Whole ps entity content)
    (hfacts : ∀ {entity edges own}, ps entity edges own → ∃ known, facts entity = .ok known ∧ known.edges = edges) :
    Acyclic facts entity := by
  induction h with
  | intro part _ ih =>
    obtain ⟨known, hknown, hedges⟩ := hfacts part
    refine acyclic_of_edges fun {known'} hknown' e he => ?_
    obtain rfl := Except.ok.inj (hknown.symm.trans hknown')
    rw [hedges] at he
    obtain ⟨p, hp, rfl⟩ := List.mem_map.mp he
    exact ih p hp

/-- Ancestors along the same edges are the same if each has one content at most. -/
theorem eq_of_ancestors : ∀ {ancestors others : List (Edge × Option Predicate)},
    ancestors.map Prod.fst = others.map Prod.fst →
      (∀ p ∈ ancestors, ∀ content, Whole ps p.1.target content → p.2 = content) →
      (∀ q ∈ others, Whole ps q.1.target q.2) → ancestors = others
  | [], [], _, _, _ => rfl
  | [], _ :: _, hedges, _, _ => by cases hedges
  | _ :: _, [], hedges, _, _ => by cases hedges
  | (e, x) :: ancestors, (e', x') :: others, hedges, hone, hwhole => by
      obtain ⟨rfl, hrest⟩ := List.cons_eq_cons.mp hedges
      obtain rfl : x = x' := hone (e, x) List.mem_cons_self x' (hwhole (e, x') List.mem_cons_self)
      rw [eq_of_ancestors hrest (fun p hp => hone p (List.mem_cons_of_mem _ hp))
        fun q hq => hwhole q (List.mem_cons_of_mem _ hq)]

/-- Facts and tokens leave a type one whole content at most. -/
theorem Whole.unique (h : Whole (parts facts tokens) entity content)
    (h' : Whole (parts facts tokens) entity content') : content = content' := by
  induction h generalizing content' with
  | intro part _ ih =>
    cases h' with
    | intro part' whole' =>
      obtain ⟨known, hknown, hedges, hown⟩ := part
      obtain ⟨known', hknown', hedges', hown'⟩ := part'
      obtain rfl := Except.ok.inj (hknown.symm.trans hknown')
      obtain rfl := Except.ok.inj (hown.symm.trans hown')
      rw [eq_of_ancestors (hedges.symm.trans hedges') (fun p hp _ hwhole => ih p hp hwhole) whole']

/-! ### What complete answers mean -/

/-- Where nothing was left out, the contents of parents are whole contents along all edges. -/
theorem whole_of_ofParents {visit : String → Except Fault (Option Predicate × Bool)} {visiting : List String}
    (hvisit : ∀ {entity content}, visit entity = .ok (content, true) → Whole ps entity content) :
    ∀ {edges : List Edge} {parents : List (String × Option Predicate)},
      ofParents visit visiting edges = .ok (parents, true) →
        ∃ ancestors : List (Edge × Option Predicate), ancestors.map Prod.fst = edges ∧
          parents = ancestors.map (fun p => (p.1.name, p.2)) ∧ ∀ p ∈ ancestors, Whole ps p.1.target p.2
  | [], _, h => by
      obtain ⟨rfl, -⟩ := Prod.mk.inj (Except.ok.inj h)
      exact ⟨[], rfl, rfl, nofun⟩
  | e :: rest, parents, h => by
      unfold ofParents at h
      by_cases hin : visiting.contains e.target
      · rw [if_pos hin] at h
        cases hrest : ofParents visit visiting rest with
        | error f => rw [hrest] at h; cases h
        | ok y => rw [hrest] at h; cases h
      · rw [if_neg hin] at h
        cases hfirst : visit e.target with
        | error f => rw [hfirst] at h; cases h
        | ok x =>
          rw [hfirst] at h
          dsimp only at h
          cases hrest : ofParents visit visiting rest with
          | error f => rw [hrest] at h; cases h
          | ok y =>
            rw [hrest] at h
            obtain ⟨rfl, hboth⟩ := Prod.mk.inj (Except.ok.inj h)
            obtain ⟨hx, hy⟩ := Bool.and_eq_true_iff.mp hboth
            have hrest' : ofParents visit visiting rest = .ok (y.1, true) := by rw [hrest, ← hy]
            obtain ⟨ancestors, rfl, hparents, hwhole⟩ := whole_of_ofParents hvisit hrest'
            refine ⟨(e, x.1) :: ancestors, rfl, congrArg _ hparents, List.forall_mem_cons.mpr ⟨?_, hwhole⟩⟩
            exact hvisit (hfirst.trans (by rw [← hx]))

/-- What a type means is whole where no cycle was cut. -/
theorem whole_of_meaning : ∀ {fuel : Nat} {visiting : List String} {entity : String} {content : Option Predicate},
    meaning facts tokens fuel visiting entity = .ok (content, true) → Whole (parts facts tokens) entity content
  | 0, _, _, _, h => by cases h
  | fuel + 1, visiting, entity, content, h => by
      unfold meaning at h
      cases hknown : facts entity with
      | error f => rw [hknown] at h; cases h
      | ok known =>
        rw [hknown] at h
        dsimp only at h
        cases hown : demand tokens known.classified with
        | error f => rw [hown] at h; cases h
        | ok own =>
          rw [hown] at h
          dsimp only at h
          cases hparents : ofParents (meaning facts tokens fuel (visiting ++ [entity])) (visiting ++ [entity])
              known.edges with
          | error f => rw [hparents] at h; cases h
          | ok y =>
            rw [hparents] at h
            obtain ⟨rfl, hcomplete⟩ := Prod.mk.inj (Except.ok.inj h)
            have hwalked : ofParents (meaning facts tokens fuel (visiting ++ [entity])) (visiting ++ [entity])
                known.edges = .ok (y.1, true) := by rw [hparents, ← hcomplete]
            obtain ⟨ancestors, hedges, hcontents, hwhole⟩ := whole_of_ofParents (fun h => whole_of_meaning h) hwalked
            rw [hcontents]
            exact .intro ⟨known, hknown, hedges.symm, hown⟩ hwhole

end Facts

namespace Registry

open Facts (Whole)

variable {promise : Promise} {l : Ledger} {view : SourceView} {r r' r'' : Registry} {t : Traversal}
  {entity first u : String} {b c : Builder} {x : Restriction} {content : Option Predicate} {fuel serial : Nat}
  {facts : String → Except Fault Facts} {tokens : String → List String}

/-! ### Parts that builders still have -/

/-- The builders of a registry are there later, with what was learned since. -/
structure Later (r r' : Registry) : Prop where
  learns : ∀ {entity b}, r.builder? entity = some b → ∃ b', r'.builder? entity = some b' ∧ Learns b.facts b'.facts

theorem Extends.later (h : Extends r r') : Later r r' where
  learns hb := by
    obtain ⟨b', hb', hfacts⟩ := h.kept hb
    exact ⟨b', hb', hfacts ▸ .refl _⟩

theorem Course.later {log : List Consultation} (h : Course r log r') : Later r r' := ⟨fun hb => h.learns hb⟩

theorem Later.trans (h : Later r r') (h' : Later r' r'') : Later r r'' where
  learns hb := by
    obtain ⟨b', hb', hlearns⟩ := h.learns hb
    obtain ⟨b'', hb'', hmore⟩ := h'.learns hb'
    exact ⟨b'', hb'', hlearns.trans hmore⟩

/-- The parts by the facts and tokens of some time, of types that have builders with no more learned since than
fields: their edges are the same. -/
def covered (r : Registry) (facts : String → Except Fault Facts) (tokens : String → List String) : Facts.Parts :=
  fun entity edges own => Facts.parts facts tokens entity edges own ∧
    ∃ known b, facts entity = .ok known ∧ r.builder? entity = some b ∧ Learns known b.facts

/-- What is whole stays whole. -/
theorem Later.whole (h : Later r r') (hw : Whole (r.covered facts tokens) entity content) :
    Whole (r'.covered facts tokens) entity content := by
  refine hw.mono fun hpart => ?_
  obtain ⟨hpart, known, b, hknown, hb, hlearns⟩ := hpart
  obtain ⟨b', hb', hmore⟩ := h.learns hb
  exact ⟨hpart, known, b', hknown, hb', hlearns.trans hmore⟩

/-- A type with a content that is whole by its builders reaches no cycle. -/
theorem acyclic_of_covered (h : Whole (r.covered facts tokens) entity content) : Facts.Acyclic r.facts entity := by
  refine h.acyclic fun hpart => ?_
  obtain ⟨⟨known, hknown, hedges, -⟩, known', b, hknown', hb, hlearns⟩ := hpart
  obtain rfl := Except.ok.inj (hknown.symm.trans hknown')
  exact ⟨b.facts, facts_of_builder hb, (congrArg Schema.edges hlearns.schema).trans hedges⟩

/-- A type that is ready has builders for all that a whole content is put together from. -/
theorem Ready.whole (hw : Whole (Facts.parts r.facts tokens) entity content) (h : Ready view r entity) :
    Whole (r.covered r.facts tokens) entity content := by
  induction hw with
  | @intro entity own ancestors part _ ih =>
    cases h with
    | @intro _ b found _ _ _ _ ready =>
      have hknown := facts_of_builder found
      refine .intro ⟨part, b.facts, b, hknown, found, .refl _⟩ fun p hp => ih p hp (ready p.1 ?_)
      obtain ⟨known, hknown', hedges, -⟩ := part
      obtain rfl := Except.ok.inj (hknown.symm.trans hknown')
      show p.1 ∈ b.facts.edges
      rw [hedges]
      exact List.mem_map_of_mem hp

/-! ### What is kept -/

/-- The builder of a type keeps an inclusive restriction. -/
def Keeping (r : Registry) (entity : String) (x : Restriction) : Prop :=
  ∃ b, r.builder? entity = some b ∧ b.inclusive.restriction = some x

theorem Puts.keeping (h : r.Puts entity c serial r') (hb : r.builder? entity = some b)
    (hsame : c.inclusive = b.inclusive) (hx : r'.Keeping u x) : r.Keeping u x := by
  obtain ⟨d, hd, hx⟩ := hx
  by_cases heq : u = entity
  · subst heq
    obtain rfl := Option.some.inj (h.self.symm.trans hd)
    exact ⟨b, hb, hsame ▸ hx⟩
  · exact ⟨d, (h.of_ne heq).symm.trans hd, hx⟩

/-- A builder that is made keeps nothing. -/
theorem keeping_get (hx : (r.get entity).1.Keeping u x) : r.Keeping u x := by
  rcases r.get_puts entity with heq | ⟨hnone, b, s, hunused, hputs⟩
  · rwa [heq] at hx
  · obtain ⟨d, hd, hx⟩ := hx
    by_cases heq : u = entity
    · subst heq
      obtain rfl := Option.some.inj (hputs.self.symm.trans hd)
      rw [hunused.inclusive] at hx
      cases hx
    · exact ⟨d, (hputs.of_ne heq).symm.trans hd, hx⟩

theorem keeping_resolveOwn (hb : r.builder? b.entity = some b) (hx : (r.resolveOwn view b).1.Keeping u x) :
    r.Keeping u x :=
  (puts_resolveOwn hb view).keeping hb (inclusive_resolveOwn b view r.serial) hx

/-- A registry that comes to keep whole contents only. -/
structure Gains (facts : String → Except Fault Facts) (tokens : String → List String) (r r' : Registry) : Prop where
  later : Later r r'
  whole : ∀ {entity x}, r'.Keeping entity x →
    r.Keeping entity x ∨ Whole (r'.covered facts tokens) entity x.content

/-- Where nothing comes to be kept, nothing is gained. -/
theorem Later.gains (h : Later r r') (hkeep : ∀ {entity x}, r'.Keeping entity x → r.Keeping entity x) :
    Gains facts tokens r r' :=
  ⟨h, fun hx => .inl (hkeep hx)⟩

theorem Gains.refl (facts : String → Except Fault Facts) (tokens : String → List String) (r : Registry) :
    Gains facts tokens r r :=
  (Extends.refl r).later.gains id

theorem Gains.trans (h : Gains facts tokens r r') (h' : Gains facts tokens r' r'') : Gains facts tokens r r'' where
  later := h.later.trans h'.later
  whole hx := by
    rcases h'.whole hx with hx | hw
    · exact (h.whole hx).imp_right h'.later.whole
    · exact .inr hw

theorem gains_get {result : Except Fault Builder} (hget : r.get entity = (r', result)) : Gains facts tokens r r' := by
  obtain rfl : (r.get entity).1 = r' := congrArg Prod.fst hget
  exact (extends_get r entity).later.gains keeping_get

theorem gains_resolveOwn {result : Except Fault (Restriction × Nat)} (hb : r.builder? b.entity = some b)
    (hown : r.resolveOwn view b = (r', result)) : Gains facts tokens r r' := by
  obtain rfl : (r.resolveOwn view b).1 = r' := congrArg Prod.fst hown
  exact (extends_resolveOwn hb view).later.gains (keeping_resolveOwn hb)

/-! ### Visits -/

/-- A complete answer is whole. -/
theorem whole_of_complete {p : Resolved} (hk : view.Keeps promise) (hc : Coherent promise l t.registry)
    (hp : (resolve view fuel t entity).2 = .ok p) (hcomplete : p.complete = true) :
    Whole (Facts.parts t.registry.facts view.tokens) entity p.restriction.content := by
  obtain ⟨l', -, hanswers⟩ := (visits_resolve hk t.registry.facts fuel t.visiting).answers entity hc rfl rfl
  refine Facts.whole_of_meaning (hanswers.eq.symm.trans ?_)
  rw [hp, ← hcomplete]
  rfl

/-- What is kept of a type behind a complete answer is the answer, and whole by the builders that there are. -/
theorem covers_of_complete {p : Resolved} (hk : view.Keeps promise) (hc : Coherent promise l t.registry)
    (hnew : entity ∉ t.visiting) (hp : (resolve view fuel t entity).2 = .ok p) (hcomplete : p.complete = true)
    (hx : (resolve view fuel t entity).1.registry.Keeping entity x) :
    Whole ((resolve view fuel t entity).1.registry.covered t.registry.facts view.tokens) entity x.content := by
  obtain ⟨hready, b, hb, hheld, -⟩ := (walks_resolve view fuel).answer t entity hnew p hp hcomplete
  obtain ⟨c, hc', hx⟩ := hx
  obtain rfl := Option.some.inj (hb.symm.trans hc')
  obtain rfl := Option.some.inj (hheld.symm.trans hx)
  have hw := whole_of_complete hk hc hp hcomplete
  rw [← (continues_resolve view fuel t entity).extension.facts] at hw ⊢
  exact hready.whole hw

/-- What is concluded replaces the builder of the type, and only a complete answer comes to be kept by it. -/
theorem keeping_conclude {own : Restriction} {generation : Nat}
    {walked : Traversal × Except Fault (List (Edge × Resolved) × Bool)}
    (hx : (conclude entity own generation walked).1.registry.Keeping u x) :
    walked.1.registry.Keeping u x ∨
      u = entity ∧ ∃ p, (conclude entity own generation walked).2 = .ok p ∧ p.complete = true := by
  obtain ⟨t, result⟩ := walked
  cases result with
  | error f => exact .inl hx
  | ok y =>
    obtain ⟨parents, complete⟩ := y
    simp only [conclude] at hx ⊢
    cases hb : t.registry.builder? entity with
    | none =>
      rw [hb] at hx
      exact .inl hx
    | some b =>
      rw [hb] at hx
      obtain rfl := builder?_entity hb
      have hentity := entity_eq_of_facts (facts_settle b own generation parents complete t.registry.serial)
      have hputs := puts_put (b := (b.settle own generation parents complete t.registry.serial).1)
        (r := t.registry) (hentity.symm ▸ hb) (b.settle own generation parents complete t.registry.serial).2.1
      rw [hentity] at hputs
      cases complete with
      | false => exact .inl (hputs.keeping hb rfl hx)
      | true =>
        by_cases heq : u = b.entity
        · exact .inr ⟨heq, _, rfl, Builder.settle_complete _ _ _ _ _ _⟩
        · obtain ⟨d, hd, hx⟩ := hx
          exact .inl ⟨d, (hputs.of_ne heq).symm.trans hd, hx⟩

/-- If visits come to keep whole contents only, so do walks. -/
theorem gains_parents (hk : view.Keeps promise)
    (hv : ∀ {l t entity}, Coherent promise l t.registry → entity ∉ t.visiting →
      Gains t.registry.facts view.tokens t.registry (resolve view fuel t entity).1.registry) :
    ∀ (edges : List Edge) {l : Ledger} {t : Traversal}, Coherent promise l t.registry →
      Gains t.registry.facts view.tokens t.registry (resolveParents (resolve view fuel) t edges).1.registry
  | [], _, _, _ => .refl _ _ _
  | e :: rest, l, t, hc => by
      by_cases hin : e.target ∈ t.visiting
      · rw [resolveParents_cut hin]
        exact gains_parents hk hv rest hc
      · have hfirst := hv hc hin
        have hcont := continues_resolve view fuel t e.target
        obtain ⟨l', hkept, -⟩ := (visits_resolve hk t.registry.facts fuel t.visiting).answers e.target hc rfl rfl
        cases hout : resolve view fuel t e.target with
        | mk t' result =>
          rw [hout] at hfirst hcont hkept
          cases result with
          | error f => rwa [resolveParents_failed hin hout]
          | ok p =>
            have hlater := gains_parents hk hv rest hkept.coherent
            rw [hcont.extension.facts] at hlater
            rw [resolveParents_visited hin hout]
            exact hfirst.trans hlater

/-- Whatever a visit comes to keep, of its own type and of all others that it visits, is whole. -/
theorem gains_resolve (hk : view.Keeps promise) :
    ∀ (fuel : Nat) {l : Ledger} {t : Traversal} {entity : String}, Coherent promise l t.registry →
      entity ∉ t.visiting → Gains t.registry.facts view.tokens t.registry (resolve view fuel t entity).1.registry
  | 0, _, t, _, _, _ => .refl _ _ t.registry
  | fuel + 1, l, t, entity, hc, hnew => by
      have hcget := hc.get entity
      have hext := extends_get t.registry entity
      cases hg : t.registry.get entity with
      | mk r result =>
        rw [hg] at hcget hext
        cases result with
        | error f =>
          simp only [resolve, hg]
          exact gains_get hg
        | ok b =>
          have hb := get_ok hg
          obtain rfl := builder?_entity hb
          obtain ⟨l', hkept, -⟩ := hcget.resolveOwn hb hk
          have hread := hext.trans (extends_resolveOwn hb view)
          cases hown : r.resolveOwn view b with
          | mk r' result =>
            rw [hown] at hkept hread
            have hfirst : Gains t.registry.facts view.tokens t.registry r' :=
              (gains_get hg).trans (gains_resolveOwn hb hown)
            cases result with
            | error f =>
              rw [resolve_unread hg hown]
              exact hfirst
            | ok y =>
              have hwalked := gains_parents hk (gains_resolve hk fuel) b.schema.edges
                (t := ⟨r', t.visiting ++ [b.entity]⟩) hkept.coherent
              rw [hread.facts] at hwalked
              have hout : resolve view (fuel + 1) t b.entity = _ := resolve_known hg hown
              rw [hout]
              refine hfirst.trans (hwalked.trans ⟨(extends_conclude _ _ _ _).later, fun {u x} hx => ?_⟩)
              refine (keeping_conclude hx).imp_right ?_
              rintro ⟨rfl, p, hp, hcomplete⟩
              have hanswer : (resolve view (fuel + 1) t b.entity).2 = .ok p := (congrArg Prod.snd hout).trans hp
              rw [← hout] at hx ⊢
              exact covers_of_complete hk hc hnew hanswer hcomplete hx

/-! ### Requests -/

theorem gains_ownRestriction (r : Registry) (view : SourceView) (entity : String) :
    Gains facts tokens r (r.ownRestriction view entity).1 := by
  obtain ⟨f, -, heq⟩ | ⟨r₁, b, hget, hb, rfl, heq⟩ := r.ownRestriction_cases view entity
  · rw [heq]
    exact .refl facts tokens r
  · rw [heq]
    exact (gains_get hget).trans (gains_resolveOwn hb rfl)

theorem gains_inclusiveRestriction (hk : view.Keeps promise) (hc : Coherent promise l r) (entity : String) :
    Gains r.facts view.tokens r (r.inclusiveRestriction view entity).1 := by
  rw [inclusiveRestriction_eq_resolve]
  exact gains_resolve hk _ (t := ⟨r, []⟩) hc List.not_mem_nil

/-- Wherever a traversal comes, the registry is coherent, and whatever it came to keep on the way is whole. -/
theorem Enters.gains (hk : view.Keeps promise) (hc : Coherent promise l r) (h : Enters view r first t entity) :
    (∃ l', Coherent promise l' t.registry) ∧ Gains r.facts view.tokens r t.registry := by
  induction h with
  | first => exact ⟨⟨l, hc⟩, .refl _ _ r⟩
  | @along t t' entity r₁ r₂ b own generation before after e fuel x h hget hown _ hwalk _ ih =>
    obtain ⟨⟨l₁, hc₁⟩, hgains⟩ := ih
    have hb := get_ok hget
    obtain rfl := builder?_entity hb
    have hcget := hc₁.get b.entity
    rw [hget] at hcget
    obtain ⟨l₂, hkept, -⟩ := hcget.resolveOwn hb hk
    have hread := (extends_of_get hget).trans (extends_resolveOwn hb view)
    rw [hown] at hkept hread
    obtain ⟨l₃, hwalked, -⟩ := (visits_resolve hk r₂.facts fuel (t.visiting ++ [b.entity])).parents before
      (t := ⟨r₂, t.visiting ++ [b.entity]⟩) hkept.coherent rfl rfl
    have hlast := gains_parents hk (gains_resolve hk fuel) before (t := ⟨r₂, t.visiting ++ [b.entity]⟩) hkept.coherent
    rw [hwalk] at hwalked hlast
    rw [hread.facts.trans h.way.1] at hlast
    exact ⟨⟨l₃, hwalked.coherent⟩, hgains.trans (((gains_get hget).trans (gains_resolveOwn hb hown)).trans hlast)⟩

end Registry

end RowAccess
