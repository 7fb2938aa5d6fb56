import Mathlib.Data.List.Basic
import Mathlib.Logic.Function.Basic
import Mathlib.Tactic.Common
import RowAccess.Proofs.Registry.Coherence
import RowAccess.Proofs.Registry.Frame
import RowAccess.Proofs.Restriction

/-!
# Requests to a coherent registry

Every request to a coherent registry leaves a coherent one behind, with a ledger that may have grown, and
answers what the facts and the source's tokens demand. The steps of a request follow its definition: own
fields, then parents, then the two put together; a traversal is an induction on the number of types that
may still be visited.
-/

namespace RowAccess

open RowAccess.Builder (Resolved)

namespace Registry

/-- What every request keeps: a ledger that grows, and coherence with it. -/
structure Kept (promise : Promise) (l l' : Ledger) (r' : Registry) : Prop where
  grows : l.Grows l'
  coherent : Coherent promise l' r'

variable {promise : Promise} {l l' l'' : Ledger} {r r' r'' : Registry} {b : Builder}
  {view : SourceView}

theorem Kept.refl (h : Coherent promise l r) : Kept promise l l r := ⟨.refl l, h⟩

theorem Kept.trans (h : Kept promise l l' r') (h' : Kept promise l' l'' r'') :
    Kept promise l l'' r'' :=
  ⟨h.grows.trans h'.grows, h'.coherent⟩

/-! ### Getting a builder -/

theorem Coherent.get (h : Coherent promise l r) (entity : String) :
    Coherent promise l (r.get entity).1 := by
  rcases get_cases r entity with ⟨b, hb, hg⟩ | ⟨f, hb, hc, hg⟩ | ⟨s, b, hb, hs, ho, hg⟩
  · rw [hg]
    exact h
  · rw [hg]
    exact h
  · rw [hg]
    have hu := Builder.unused_ofSchema ho
    obtain rfl := Builder.entity_of_described hs ho
    have hreach : ∀ generation e g, r.reached generation e = some g →
        ∃ g', ({ r with builders := r.builders ++ [b] } : Registry).reached generation e = some g' ∧
          g ≤ g' := by
      intro generation e g hg
      refine ⟨g, ?_, Nat.le_refl g⟩
      unfold reached at hg ⊢
      rw [builder?_append hb, if_neg]
      · exact hg
      · rintro rfl
        rw [hb] at hg
        cases hg
    refine ⟨?_, h.own.mono (hreach _), h.inclusive.mono (hreach _)⟩
    intro e c hc
    rw [builder?_append hb] at hc
    split at hc
    · obtain rfl := Option.some.inj hc
      exact Builder.sound_of_none (by rw [hu.own]; rfl) (by rw [hu.inclusive]; rfl)
    · exact h.sound hc

/-! ### Own fields -/

theorem reached_of_builder (h : r.builder? b.entity = some b) (generation : Builder → Nat) :
    r.reached generation b.entity = some (generation b) := by
  simp only [reached, h, Option.map_some]

/-- A slot that a builder comes to anyway is no news. -/
theorem update_reached (h : r.builder? b.entity = some b) (generation : Builder → Nat) {g : Nat}
    (hg : g = generation b) :
    Function.update (r.reached generation) b.entity (some g) = r.reached generation := by
  rw [hg, ← reached_of_builder h generation, Function.update_eq_self]

/-- A builder changes without a build. -/
theorem Coherent.put_same {c : Builder} (h : Coherent promise l r)
    (hb : r.builder? b.entity = some b) (hs : c.Sound promise l) (hc : c.entity = b.entity)
    (hown : c.own.generation = b.own.generation)
    (hinclusive : c.inclusive.generation = b.inclusive.generation) (serial : Nat) :
    Coherent promise l ({ r with serial }.put c) := by
  refine h.put (hc.symm ▸ hb) (.refl l) hs ?_ ?_ serial
  · rw [hc, update_reached hb (fun b => b.own.generation) hown]
    exact h.own
  · rw [hc, update_reached hb (fun b => b.inclusive.generation) hinclusive]
    exact h.inclusive

/-- An own slot changes without a build. -/
theorem Coherent.put_unbuilt (h : Coherent promise l r) (hb : r.builder? b.entity = some b)
    {own : OwnSlot} (hgen : own.generation = b.own.generation)
    (hvalid : own.Valid promise { b with own })
    (hx : ∀ {x}, own.restriction = some x → b.own.restriction = some x) (serial : Nat) :
    Kept promise l l ({ r with serial }.put { b with own }) := by
  have hs := h.sound hb
  have hs' : Builder.Sound promise l { b with own } := by
    refine ⟨hvalid, ?_, hs.inclusive, hs.composed⟩
    intro x hr
    rw [hgen]
    exact hs.own (hx hr)
  exact ⟨.refl l, h.put_same hb hs' rfl hgen rfl serial⟩

/-- An own slot holds a new build, which goes on record. -/
theorem Coherent.put_built (h : Coherent promise l r) (hb : r.builder? b.entity = some b)
    {own : OwnSlot} {x : Restriction} (hgen : own.generation = b.own.generation + 1)
    (hvalid : own.Valid promise { b with own }) (hx : own.restriction = some x) (serial : Nat) :
    ∃ l', Kept promise l l' ({ r with serial }.put { b with own }) ∧
      ⟨b.entity, own.generation, x.content⟩ ∈ l'.own := by
  have hs := h.sound hb
  have hb' : r.builder? ({ b with own } : Builder).entity = some b := hb
  let l' : Ledger := ⟨⟨b.entity, own.generation, x.content⟩ :: l.own, l.inclusive⟩
  have hl : l.Grows l' := ⟨List.subset_cons_self _ _, List.Subset.refl _⟩
  have hnew : ⟨b.entity, own.generation, x.content⟩ ∈ l'.own := List.mem_cons_self
  have hs' : Builder.Sound promise l' { b with own } := by
    refine ⟨hvalid, ?_, (hs.grow hl).inclusive, (hs.grow hl).composed⟩
    intro y hy
    obtain rfl := Option.some.inj (hx.symm.trans hy)
    exact hnew
  refine ⟨l', ⟨hl, h.put hb' hl hs' ?_ ?_ serial⟩, hnew⟩
  · have hadd := h.own.add (reached_of_builder hb fun b => b.own.generation) x.content
    rw [← hgen] at hadd
    exact hadd
  · exact (update_reached hb (fun b => b.inclusive.generation) rfl).symm ▸ h.inclusive

/-- A request for the own fields answers what they demand, and what it answers is on record. -/
theorem Coherent.resolveOwn (h : Coherent promise l r) (hb : r.builder? b.entity = some b)
    (hk : view.Keeps promise) :
    ∃ l', Kept promise l l' (r.resolveOwn view b).1 ∧
      (r.resolveOwn view b).2.map (fun x => x.1.content) =
        Facts.demand view.tokens b.classified ∧
      ∀ x g, (r.resolveOwn view b).2 = .ok (x, g) → ⟨b.entity, g, x.content⟩ ∈ l'.own := by
  have hs := h.sound hb
  have hstep := b.resolveOwn_step view r.serial
  have hanswer := hstep.answer hs.valid hk
  have hvalid := hstep.valid hs.valid hk
  unfold Registry.resolveOwn
  generalize b.resolveOwn view r.serial = out at hstep hanswer hvalid
  cases hstep with
  | byVersion x v held reported same =>
    refine ⟨l, h.put_unbuilt hb (OwnSlot.forSource_generation ..) hvalid
      OwnSlot.restriction_of_forSource r.serial, hanswer, ?_⟩
    intro y g hy
    obtain ⟨rfl, rfl⟩ := Prod.mk.inj (Except.ok.inj hy)
    exact hs.own (OwnSlot.restriction_of_forSource held)
  | byFingerprint x held same =>
    refine ⟨l, h.put_unbuilt hb ?_ hvalid ?_ r.serial, hanswer, ?_⟩
    · exact OwnSlot.forSource_generation ..
    · exact OwnSlot.restriction_of_forSource
    · intro y g hy
      obtain ⟨rfl, rfl⟩ := Prod.mk.inj (Except.ok.inj hy)
      exact hs.own (OwnSlot.restriction_of_forSource held)
  | failed f demand =>
    refine ⟨l, h.put_unbuilt hb ?_ hvalid ?_ r.serial, hanswer, ?_⟩
    · exact OwnSlot.forSource_generation ..
    · intro x hx
      cases hx
    · intro y g hy
      cases hy
  | built content demand =>
    obtain ⟨l', hkept, hnew⟩ := h.put_built hb rfl hvalid rfl (Builder.object r.serial content).2
    refine ⟨l', hkept, hanswer, ?_⟩
    intro y g hy
    obtain ⟨rfl, rfl⟩ := Prod.mk.inj (Except.ok.inj hy)
    exact hnew

/-! ### Putting parts together -/

/-- The contents of parents by the names of their edges. -/
def contents (parents : List (Edge × Resolved)) : List (String × Option Predicate) :=
  parents.map fun p => (p.1.name, p.2.restriction.content)

theorem combine_of_open {own : Option Predicate} :
    ∀ {parents : List (String × Option Predicate)}, (∀ p ∈ parents, p.2 = none) →
      Facts.combine own parents = own
  | [], _ => rfl
  | p :: rest, h => by
      have hp : p.2 = none := h p (by simp)
      unfold Facts.combine
      rw [List.foldl_cons, hp]
      exact combine_of_open fun q hq => h q (List.mem_cons_of_mem _ hq)

/-- What is put together holds what the parts demand together. -/
theorem combined_content (own : Restriction) (parents : List (Edge × Resolved)) (serial : Nat) :
    (Builder.combined own parents serial).1.content =
      Facts.combine own.content (contents parents) := by
  unfold Builder.combined
  split
  next hopen =>
    have hnone : ∀ p ∈ contents parents, p.2 = none := by
      intro p hp
      obtain ⟨q, hq, rfl⟩ := List.mem_map.mp hp
      exact Restriction.isUnrestricted_iff.mp (List.all_eq_true.mp hopen q hq)
    exact (combine_of_open hnone).symm
  next =>
    rw [Builder.object_content, Builder.combine_eq]
    rfl

/-- Parents along all edges of a type, with what they answered on record. -/
structure Ancestry (l : Ledger) (edges : List Edge) (parents : List (Edge × Resolved)) : Prop where
  edges_eq : parents.map (·.1) = edges
  recorded : ∀ p ∈ parents,
    ⟨p.1.target, p.2.generation, p.2.restriction.content⟩ ∈ l.inclusive

theorem Ancestry.cons {e : Edge} {rest : List Edge} {x : Resolved} {parents : List (Edge × Resolved)}
    (h : Ancestry l rest parents) (hx : ⟨e.target, x.generation, x.restriction.content⟩ ∈ l.inclusive) :
    Ancestry l (e :: rest) ((e, x) :: parents) := by
  refine ⟨congrArg (e :: ·) h.edges_eq, fun p hp => ?_⟩
  rcases List.mem_cons.mp hp with rfl | hp
  · exact hx
  · exact h.recorded p hp

/-- The builds that parents answered. -/
def builds (parents : List (Edge × Resolved)) : List Build :=
  parents.map fun p => ⟨p.1.target, p.2.generation, p.2.restriction.content⟩

/-- A content put together from parts on record is composed in the sense of the ledger. -/
theorem Ancestry.composed {edges : List Edge} {parents : List (Edge × Resolved)} {entity : String}
    {own : Option Predicate} {s : InclusiveSlot} (h : Ancestry l edges parents)
    (hown : ⟨entity, s.ownGeneration, own⟩ ∈ l.own)
    (hgen : s.parentGenerations = parents.map fun p => p.2.generation) :
    l.Composed entity edges s (Facts.combine own (contents parents)) own (builds parents) := by
  refine ⟨hown, ?_, ?_, ?_, ?_⟩
  · intro p hp
    obtain ⟨q, hq, rfl⟩ := List.mem_map.mp hp
    exact h.recorded q hq
  · rw [← h.edges_eq]
    simp [builds]
  · rw [hgen]
    simp [builds]
  · rw [← h.edges_eq]
    congr 1
    simp [builds, contents, List.zip_map', Function.comp_def]

/-- Contents composed from parts of the same types and generations are the same. -/
theorem Coherent.composed_unique (h : Coherent promise l r) {entity : String} {edges : List Edge}
    {s : InclusiveSlot} {x x' own own' : Option Predicate} {ps ps' : List Build}
    (hc : l.Composed entity edges s x own ps) (hc' : l.Composed entity edges s x' own' ps') :
    x = x' := by
  have hown : own = own' := h.own.unique hc.own_mem hc'.own_mem rfl rfl
  have hps : ps.map Build.content = ps'.map Build.content :=
    h.inclusive.contents_eq hc.parents_mem hc'.parents_mem (hc.targets.trans hc'.targets.symm)
      (hc.generations.trans hc'.generations.symm)
  rw [hc.content_eq, hc'.content_eq, hown, hps]

/-- An inclusive slot holds a new build, put together from parts on record. -/
theorem Coherent.put_composed (h : Coherent promise l r) (hb : r.builder? b.entity = some b)
    {slot : InclusiveSlot} {own x : Restriction} {parents : List (Edge × Resolved)}
    (hgen : slot.generation = b.inclusive.generation + 1) (hx : slot.restriction = some x)
    (hcomp : l.Composed b.entity b.schema.edges slot x.content own.content (builds parents))
    (serial : Nat) :
    ∃ l', Kept promise l l' ({ r with serial }.put { b with inclusive := slot }) ∧
      ⟨b.entity, slot.generation, x.content⟩ ∈ l'.inclusive := by
  have hs := h.sound hb
  have hb' : r.builder? ({ b with inclusive := slot } : Builder).entity = some b := hb
  let l' : Ledger := ⟨l.own, ⟨b.entity, slot.generation, x.content⟩ :: l.inclusive⟩
  have hl : l.Grows l' := ⟨List.Subset.refl _, List.subset_cons_self _ _⟩
  have hnew : ⟨b.entity, slot.generation, x.content⟩ ∈ l'.inclusive := List.mem_cons_self
  have hs' : Builder.Sound promise l' { b with inclusive := slot } := by
    refine ⟨⟨hs.valid.version, hs.valid.fingerprint⟩, (hs.grow hl).own, ?_, ?_⟩
    · intro y hy
      obtain rfl := Option.some.inj (hx.symm.trans hy)
      exact hnew
    · intro y hy
      obtain rfl := Option.some.inj (hx.symm.trans hy)
      exact ⟨own.content, builds parents, hcomp.grow hl⟩
  refine ⟨l', ⟨hl, h.put hb' hl hs' ?_ ?_ serial⟩, hnew⟩
  · exact (update_reached hb (fun b => b.own.generation) rfl).symm ▸ h.own
  · have hadd := h.inclusive.add (reached_of_builder hb fun b => b.inclusive.generation) x.content
    rw [← hgen] at hadd
    exact hadd

/-- Settling a restriction answers what its parts demand together; a complete answer is on record. -/
theorem Coherent.settle (h : Coherent promise l r) (hb : r.builder? b.entity = some b)
    {own : Restriction} {g : Nat} {parents : List (Edge × Resolved)} {complete : Bool}
    (hown : ⟨b.entity, g, own.content⟩ ∈ l.own)
    (hall : complete = true → Ancestry l b.schema.edges parents) :
    ∃ l', Kept promise l l'
        (({ r with serial := (b.settle own g parents complete r.serial).2.1 } : Registry).put
          (b.settle own g parents complete r.serial).1) ∧
      (b.settle own g parents complete r.serial).2.2.restriction.content =
        Facts.combine own.content (contents parents) ∧
      (b.settle own g parents complete r.serial).2.2.complete = complete ∧
      (complete = true → ⟨b.entity, (b.settle own g parents complete r.serial).2.2.generation,
        Facts.combine own.content (contents parents)⟩ ∈ l'.inclusive) := by
  have hs := h.sound hb
  have hsame : ∀ serial, Kept promise l l (({ r with serial } : Registry).put b) :=
    fun serial => ⟨.refl l, h.put_same hb hs rfl rfl rfl serial⟩
  have hx := combined_content own parents r.serial
  cases complete with
  | false => exact ⟨l, hsame _, hx, rfl, fun hc => by cases hc⟩
  | true =>
    have hanc := hall rfl
    unfold Builder.settle
    simp only [if_true]
    split
    next kept hkept =>
      unfold Builder.keptInclusive? at hkept
      split at hkept
      next hgens =>
        obtain ⟨own', ps, hcomp⟩ := hs.composed hkept
        have heq : kept.content = Facts.combine own.content (contents parents) :=
          h.composed_unique hcomp (hanc.composed (hgens.1 ▸ hown) hgens.2)
        refine ⟨l, hsame _, heq, rfl, fun _ => ?_⟩
        rw [← heq]
        exact hs.inclusive hkept
      next => cases hkept
    next =>
      let slot : InclusiveSlot :=
        ⟨some (Builder.combined own parents r.serial).1, g, parents.map fun p => p.2.generation,
          b.inclusive.generation + 1⟩
      have hcomp := hanc.composed (s := slot) hown rfl
      rw [← hx] at hcomp
      obtain ⟨l', hkept, hnew⟩ := h.put_composed hb rfl rfl hcomp
        (Builder.combined own parents r.serial).2
      refine ⟨l', hkept, hx, rfl, fun _ => ?_⟩
      rw [← hx]
      exact hnew

/-! ### Traversals -/

/-- An answer for a type that says what the type means; a complete one is on record. -/
structure Answers (l : Ledger) (entity : String) (result : Except Fault Resolved)
    (meaning : Except Fault (Option Predicate × Bool)) : Prop where
  eq : result.map (fun x => (x.restriction.content, x.complete)) = meaning
  recorded : ∀ {x}, result = .ok x → x.complete = true →
    ⟨entity, x.generation, x.restriction.content⟩ ∈ l.inclusive

/-- A way of visiting types that answers what they mean, from every coherent registry with the same
facts and the same types being visited. -/
structure Visits (promise : Promise) (facts : String → Except Fault Facts) (visiting : List String)
    (visit : Traversal → String → Traversal × Except Fault Resolved)
    (meaning : String → Except Fault (Option Predicate × Bool)) : Prop where
  continues : ∀ t entity, Continues t (visit t entity).1
  answers : ∀ {l : Ledger} {t : Traversal} (entity : String), Coherent promise l t.registry →
    t.registry.facts = facts → t.visiting = visiting →
    ∃ l', Kept promise l l' (visit t entity).1.registry ∧
      Answers l' entity (visit t entity).2 (meaning entity)

variable {facts : String → Except Fault Facts} {visiting : List String}
  {visit : Traversal → String → Traversal × Except Fault Resolved}
  {meaning : String → Except Fault (Option Predicate × Bool)}

/-- Parents answer what they mean; where no edge was left out, they are a full ancestry. -/
theorem Visits.parents (hv : Visits promise facts visiting visit meaning) :
    ∀ (edges : List Edge) {l : Ledger} {t : Traversal}, Coherent promise l t.registry →
      t.registry.facts = facts → t.visiting = visiting →
      ∃ l', Kept promise l l' (resolveParents visit t edges).1.registry ∧
        (resolveParents visit t edges).2.map (fun x => (contents x.1, x.2)) =
          Facts.ofParents meaning visiting edges ∧
        ∀ parents, (resolveParents visit t edges).2 = .ok (parents, true) →
          Ancestry l' edges parents
  | [], l, t, h, _, _ => by
      refine ⟨l, .refl h, rfl, ?_⟩
      intro parents hp
      obtain ⟨rfl, -⟩ := Prod.mk.inj (Except.ok.inj hp)
      exact ⟨rfl, fun p hp => by cases hp⟩
  | e :: rest, l, t, h, hf, hvis => by
      unfold resolveParents Facts.ofParents
      rw [hvis]
      by_cases hc : visiting.contains e.target
      · rw [if_pos hc, if_pos hc]
        obtain ⟨l', hkept, heq, -⟩ := hv.parents rest h hf hvis
        generalize resolveParents visit t rest = out at hkept heq
        obtain ⟨t', result⟩ := out
        refine ⟨l', ?_⟩
        cases result with
        | error f => exact ⟨hkept, by rw [← heq]; rfl, fun _ hp => by cases hp⟩
        | ok x => exact ⟨hkept, by rw [← heq]; rfl, fun _ hp => by cases hp⟩
      · rw [if_neg hc, if_neg hc]
        obtain ⟨l', hkept, hans⟩ := hv.answers e.target h hf hvis
        have hcont := hv.continues t e.target
        generalize visit t e.target = out at hkept hans hcont
        obtain ⟨t', result⟩ := out
        cases result with
        | error f =>
          refine ⟨l', hkept, ?_, fun _ hp => by cases hp⟩
          rw [← hans.eq]
          rfl
        | ok x =>
          rw [← hans.eq]
          obtain ⟨l'', hkept', heq, hanc⟩ := hv.parents rest hkept.coherent
            (hcont.extension.facts.trans hf) (hcont.visiting.trans hvis)
          dsimp only [Except.map]
          rw [← heq]
          generalize resolveParents visit t' rest = out at hkept' hanc
          obtain ⟨t'', result⟩ := out
          refine ⟨l'', ?_⟩
          cases result with
          | error f => exact ⟨hkept.trans hkept', rfl, fun _ hp => by cases hp⟩
          | ok y =>
            refine ⟨hkept.trans hkept', rfl, ?_⟩
            intro parents hp
            obtain ⟨rfl, hboth⟩ := Prod.mk.inj (Except.ok.inj hp)
            obtain ⟨hx, hy⟩ := Bool.and_eq_true_iff.mp hboth
            have hrest : Ancestry l'' rest y.1 := hanc y.1 (by rw [← hy])
            exact hrest.cons (hkept'.grows.inclusive (hans.recorded rfl hx))

/-- A builder whose type is being visited answers what its facts mean. -/
theorem Visits.compose (hv : Visits promise facts visiting visit meaning)
    (hk : view.Keeps promise) {t : Traversal} (h : Coherent promise l t.registry)
    (hf : t.registry.facts = facts) (hvis : t.visiting = visiting)
    (hb : t.registry.builder? b.entity = some b) :
    ∃ l', Kept promise l l' (Registry.compose visit view t b).1.registry ∧
      Answers l' b.entity (Registry.compose visit view t b).2
        (match Facts.demand view.tokens b.classified with
          | .error f => .error f
          | .ok own =>
              match Facts.ofParents meaning visiting b.schema.edges with
              | .error f => .error f
              | .ok (parents, complete) => .ok (Facts.combine own parents, complete)) := by
  unfold Registry.compose
  obtain ⟨l₁, hkept₁, hown, hrec⟩ := h.resolveOwn hb hk
  have hext₁ := extends_resolveOwn hb view
  rw [← hown]
  generalize t.registry.resolveOwn view b = out at hkept₁ hrec hext₁
  obtain ⟨r₁, result⟩ := out
  cases result with
  | error f => exact ⟨l₁, hkept₁, rfl, fun hx => by cases hx⟩
  | ok x =>
    obtain ⟨own, g⟩ := x
    obtain ⟨l₂, hkept₂, heq, hanc⟩ :=
      hv.parents b.schema.edges (t := { t with registry := r₁ }) hkept₁.coherent
        (hext₁.facts.trans hf) hvis
    have hext₂ := (continues_parents hv.continues b.schema.edges { t with registry := r₁ }).extension
    dsimp only [Except.map]
    rw [← heq]
    generalize resolveParents visit { t with registry := r₁ } b.schema.edges = out
      at hkept₂ hanc hext₂
    obtain ⟨t₂, result⟩ := out
    have hkept := hkept₁.trans hkept₂
    cases result with
    | error f => exact ⟨l₂, hkept, rfl, fun hx => by cases hx⟩
    | ok y =>
      obtain ⟨parents, complete⟩ := y
      obtain ⟨b₂, hb₂, hfacts⟩ := (hext₁.trans hext₂).kept hb
      have hentity : b₂.entity = b.entity := entity_eq_of_facts hfacts
      have hedges : b₂.schema.edges = b.schema.edges := congrArg Facts.edges hfacts
      have hown₂ : ⟨b₂.entity, g, own.content⟩ ∈ l₂.own := by
        rw [hentity]
        exact hkept₂.grows.own (hrec own g rfl)
      obtain ⟨l₃, hkept₃, hcontent, hcomplete, hrec₃⟩ :=
        hkept.coherent.settle (hentity.symm ▸ hb₂) hown₂
          (fun hc : complete = true => hedges.symm ▸ hanc parents (by rw [hc]))
      simp only [hb₂]
      refine ⟨l₃, hkept.trans hkept₃, ?_, ?_⟩
      · show Except.ok (_, _) = Except.ok (_, _)
        dsimp only at hcontent hcomplete
        rw [hcontent, hcomplete]
      · intro z hz hzc
        obtain rfl := Except.ok.inj hz
        rw [hcontent, ← hentity]
        exact hrec₃ (hcomplete.symm.trans hzc)

/-- A traversal answers what the types mean. -/
theorem visits_resolve (hk : view.Keeps promise) (facts : String → Except Fault Facts) :
    ∀ (fuel : Nat) (visiting : List String),
      Visits promise facts visiting (resolve view fuel)
        (Facts.meaning facts view.tokens fuel visiting)
  | 0, _ => ⟨continues_resolve view 0, fun _ h _ _ => ⟨_, .refl h, rfl, fun hx => by cases hx⟩⟩
  | fuel + 1, visiting => by
      refine ⟨continues_resolve view (fuel + 1), fun {l t} entity h hf hvis => ?_⟩
      unfold resolve Facts.meaning
      have hget := h.get entity
      have hext := extends_get t.registry entity
      have hfacts : (t.registry.get entity).2.map Builder.facts = facts entity := by rw [← hf]; rfl
      rw [← hfacts]
      cases hg : t.registry.get entity with
      | mk r result =>
        rw [hg] at hget hext
        cases result with
        | error f => exact ⟨l, .refl hget, rfl, fun hx => by cases hx⟩
        | ok b =>
          have hb := get_ok hg
          obtain rfl := builder?_entity hb
          obtain ⟨l', hkept, hans⟩ :=
            (visits_resolve hk facts fuel (visiting ++ [b.entity])).compose hk
              (t := ⟨r, t.visiting ++ [b.entity]⟩) hget (hext.facts.trans hf) (by rw [hvis]) hb
          exact ⟨l', hkept, hans⟩

/-! ### Requests -/

/-- A request for the own fields of a type answers what they demand. -/
theorem Coherent.ownRestriction (h : Coherent promise l r) (hk : view.Keeps promise)
    (entity : String) :
    ∃ l', Kept promise l l' (r.ownRestriction view entity).1 ∧
      (r.ownRestriction view entity).2.map Restriction.content =
        r.ownMeaning view.tokens entity := by
  unfold ownMeaning facts
  obtain ⟨f, hg, heq⟩ | ⟨r₁, b, hg, hb, rfl, heq⟩ := r.ownRestriction_cases view entity
  · rw [heq, hg]
    exact ⟨l, .refl h, rfl⟩
  · have hget := h.get b.entity
    rw [hg] at hget
    obtain ⟨l', hkept, hcontent, -⟩ := Coherent.resolveOwn hget hb hk
    rw [heq, hg]
    refine ⟨l', hkept, Eq.trans ?_ hcontent⟩
    cases (r₁.resolveOwn view b).2 <;> rfl

/-- A request for a type and its ancestors answers what they mean. -/
theorem Coherent.inclusiveRestriction (h : Coherent promise l r) (hk : view.Keeps promise)
    (entity : String) :
    ∃ l', Kept promise l l' (r.inclusiveRestriction view entity).1 ∧
      (r.inclusiveRestriction view entity).2.map Restriction.content =
        r.inclusiveMeaning view.tokens entity := by
  obtain ⟨l', hkept, hans⟩ :=
    (visits_resolve hk r.facts (r.typeBound + 1) []).answers (t := ⟨r, []⟩) entity h rfl rfl
  rw [inclusiveRestriction_eq_resolve, inclusiveMeaning, ← hans.eq]
  refine ⟨l', hkept, ?_⟩
  cases (resolve view (r.typeBound + 1) ⟨r, []⟩ entity).2 <;> rfl

end Registry

end RowAccess
