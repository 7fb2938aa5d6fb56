import Mathlib.Data.List.Basic
import Mathlib.Tactic.Common
import RowAccess.Proofs.Registry.Distinct

/-!
# Classifications one after another

Classifications are done one after another, up to the first that is refused. What is known of a type then is what was
known of it before, with the fields that were classified behind it, each of them once and in order. A classification
that is refused leaves no more than a builder, which says what the catalog said; all behind it leave nothing.
-/

namespace RowAccess

namespace Registry

variable {r r' r'' : Registry} {b b' : Builder} {k : Classification} {f : Fault}
  {done done' touched touched' : List Classification}

/-- What is left of classifications. What is known of a type is what was known of it and, behind that, those that were
done; where nothing was known, nothing is. Types of those that were done have builders, and a builder that is new is of
a type that a classification touched, whether it was done or not. -/
structure Registered (r r' : Registry) (done touched : List Classification) : Prop where
  catalog : r'.catalog = r.catalog
  source : r'.source = r.source
  known : ∀ {entity known}, r.facts entity = .ok known → ∃ known', r'.facts entity = .ok known' ∧
    known'.schema = known.schema ∧ known'.labels = (labelsOf done entity).foldl Facts.withLabel known.labels
  unknown : ∀ {entity f}, r.facts entity = .error f → r'.facts entity = .error f
  kept : ∀ entity, (r.builder? entity).isSome → (r'.builder? entity).isSome
  found : ∀ k ∈ done, (r'.builder? k.entity).isSome
  made : ∀ entity, (r'.builder? entity).isSome → (r.builder? entity).isSome ∨ ∃ k ∈ touched, k.entity = entity

namespace Registered

theorem refl (r : Registry) : Registered r r [] [] where
  catalog := rfl
  source := rfl
  known h := ⟨_, h, rfl, rfl⟩
  unknown h := h
  kept _ h := h
  found := nofun
  made _ h := .inl h

theorem trans (h : Registered r r' done touched) (h' : Registered r' r'' done' touched') :
    Registered r r'' (done ++ done') (touched ++ touched') where
  catalog := h'.catalog.trans h.catalog
  source := h'.source.trans h.source
  known hk := by
    obtain ⟨known', hknown', hschema', hlabels'⟩ := h.known hk
    obtain ⟨known'', hknown'', hschema'', hlabels''⟩ := h'.known hknown'
    refine ⟨known'', hknown'', hschema''.trans hschema', ?_⟩
    rw [hlabels'', hlabels', labelsOf_append, List.foldl_append]
  unknown hf := h'.unknown (h.unknown hf)
  kept entity hb := h'.kept entity (h.kept entity hb)
  found k hk := by
    rcases List.mem_append.mp hk with hk | hk
    · exact h'.kept _ (h.found k hk)
    · exact h'.found k hk
  made entity hb := by
    rcases h'.made entity hb with hb' | ⟨k, hk, heq⟩
    · rcases h.made entity hb' with hold | ⟨k, hk, heq⟩
      · exact .inl hold
      · exact .inr ⟨k, List.mem_append_left _ hk, heq⟩
    · exact .inr ⟨k, List.mem_append_right _ hk, heq⟩

end Registered

/-! ### One classification -/

/-- A builder that is got is made of its own type only. -/
theorem builder?_get_of_ne (r : Registry) {entity e : String} (he : e ≠ entity) :
    (r.get entity).1.builder? e = r.builder? e := by
  rcases get_cases r entity with ⟨b, -, hg⟩ | ⟨f, -, -, hg⟩ | ⟨s, b, hnone, hs, ho, hg⟩
  · rw [hg]
  · rw [hg]
  · obtain rfl := Builder.entity_of_described hs ho
    rw [hg, builder?_append hnone, if_neg he]

/-- To get a builder is to do nothing, but perhaps to make it. -/
theorem registered_get (r : Registry) (k : Classification) : Registered r (r.get k.entity).1 [] [k] := by
  have hext := extends_get r k.entity
  refine ⟨hext.catalog, hext.source, fun {_ known} h => ⟨known, hext.facts ▸ h, rfl, rfl⟩, fun h => hext.facts ▸ h,
    fun entity h => ?_, nofun, fun entity h => ?_⟩
  · obtain ⟨b, hb⟩ := Option.isSome_iff_exists.mp h
    obtain ⟨b', hb', -⟩ := hext.kept hb
    exact hb' ▸ rfl
  · by_cases he : k.entity = entity
    · exact .inr ⟨k, List.mem_singleton_self k, he⟩
    · refine .inl ?_
      rwa [builder?_get_of_ne r (Ne.symm he)] at h

/-- A builder that is put back after a classification. -/
theorem registered_put (hb : r.builder? b.entity = some b) (hk : k.entity = b.entity)
    (h : b.classify k.field k.dimension = .ok b') : Registered r (r.put b') [k] [] := by
  have hschema := Builder.classify_schema h
  have hentity : b'.entity = b.entity := congrArg Schema.entity hschema
  have hput : ∀ e, (r.put b').builder? e = if e = b.entity then some b' else r.builder? e := by
    intro e
    rw [builder?_put, hentity]
    split
    next he => rw [he, hb, Option.map_some]
    next => rfl
  -- Nothing but the type of the classification is known otherwise than before.
  have hother : ∀ {e}, e ≠ b.entity → (r.put b').facts e = r.facts e := fun {e} he => by
    rw [facts_put (hentity ▸ hb), Function.update_of_ne (hentity ▸ he)]
  have hself : (r.put b').facts b.entity = .ok b'.facts := facts_of_builder (by rw [hput, if_pos rfl])
  refine ⟨rfl, rfl, fun {entity known} hknown => ?_, fun {entity f} hf => ?_, fun entity hsome => ?_, fun d hd => ?_,
    fun entity hsome => .inl ?_⟩
  · by_cases he : entity = b.entity
    · subst he
      obtain rfl := Except.ok.inj ((facts_of_builder hb).symm.trans hknown)
      have hlabel : labelsOf [k] b.entity = [(k.field, k.dimension)] := by simp [labelsOf, hk]
      refine ⟨_, hself, hschema, ?_⟩
      rw [hlabel]
      exact Builder.labels_classify h
    · have hnone : labelsOf [k] entity = [] :=
        labelsOf_eq_nil fun d hd heq => he (heq.symm.trans (List.mem_singleton.mp hd ▸ hk))
      exact ⟨known, (hother he).trans hknown, rfl, by rw [hnone]; rfl⟩
  · have he : entity ≠ b.entity := by
      rintro rfl
      cases hf.symm.trans (facts_of_builder hb)
    exact (hother he).trans hf
  · rw [hput]
    split
    next => rfl
    next => exact hsome
  · rw [List.mem_singleton.mp hd, hput, if_pos hk]
    rfl
  · rw [hput] at hsome
    split at hsome
    next he => rw [he, hb]; rfl
    next => exact hsome

theorem registered_classify (h : r.classify k.entity k.field k.dimension = (r', .ok ())) :
    Registered r r' [k] [k] := by
  rcases r.classify_cases k.entity k.field k.dimension with ⟨f, hf⟩ | ⟨b, b', hb, hk, -, hc, hput⟩
  · cases h.symm.trans hf
  · obtain ⟨rfl, -⟩ := Prod.mk.inj (h.symm.trans hput)
    exact (r.registered_get k).trans (registered_put hb hk.symm hc)

/-- A classification that is refused leaves no more than a builder, and is refused again. -/
theorem classify_error (h : r.classify k.entity k.field k.dimension = (r', .error f)) :
    r' = (r.get k.entity).1 ∧ r'.classify k.entity k.field k.dimension = (r', .error f) ∧ f.isRegistration = true := by
  have hleft : r' = (r.get k.entity).1 := by
    rcases r.classify_cases k.entity k.field k.dimension with ⟨g, hg⟩ | ⟨b, b', -, -, -, -, hg⟩
    · exact (Prod.mk.inj (h.symm.trans hg)).1
    · cases h.symm.trans hg
  refine ⟨hleft, ?_⟩
  -- Where no builder can be made, the registry is as it was; else the builder is there now and refuses by itself.
  cases hg : r.get k.entity with
  | mk r₁ result =>
    obtain rfl : r' = r₁ := hleft.trans (congrArg Prod.fst hg)
    cases result with
    | error g =>
      have hunknown : r.facts k.entity = .error g := facts_of_get (congrArg Prod.snd hg)
      obtain rfl : r' = r := congrArg Prod.fst (hg.symm.trans (get_error hunknown).2)
      have hfault : f = g := by
        unfold classify at h
        rw [hg] at h
        exact (Except.error.inj (congrArg Prod.snd h)).symm
      exact ⟨h, hfault ▸ isRegistration_of_facts hunknown⟩
    | ok b =>
      have hagain : (r'.classify k.entity k.field k.dimension).2 = .error f :=
        ((classify_congr (extends_of_get hg).facts k.entity k.field k.dimension).1).trans (congrArg Prod.snd h)
      obtain ⟨hrefused, hsame⟩ := classify_refused (get_ok hg) hagain
      exact ⟨Prod.ext hsame hagain, Builder.isRegistration_of_classify hrefused⟩

/-! ### All of them -/

theorem registered_classifyAll : ∀ {cs : List Classification} {r : Registry},
    Access.classifyAll r cs = (r', .ok ()) → Registered r r' cs cs
  | [], r, h => by
      obtain ⟨rfl, -⟩ := Prod.mk.inj h
      exact .refl r
  | k :: rest, r, h => by
      unfold Access.classifyAll at h
      cases hc : r.classify k.entity k.field k.dimension with
      | mk r₁ result =>
        rw [hc] at h
        cases result with
        | error f => cases h
        | ok _ => exact (registered_classify hc).trans (registered_classifyAll h)

/-- Where classifications fail, there is a first one that is refused: those before it were done. -/
theorem classifyAll_error : ∀ {cs : List Classification} {r : Registry}, Access.classifyAll r cs = (r', .error f) →
    ∃ i k r₀, cs[i]? = some k ∧ Access.classifyAll r (cs.take i) = (r₀, .ok ()) ∧
      r₀.classify k.entity k.field k.dimension = (r', .error f)
  | [], _, h => by cases h
  | k :: rest, r, h => by
      unfold Access.classifyAll at h
      cases hc : r.classify k.entity k.field k.dimension with
      | mk r₁ result =>
        rw [hc] at h
        cases result with
        | error g =>
          cases h
          exact ⟨0, k, r, rfl, rfl, hc⟩
        | ok _ =>
          obtain ⟨i, k', r₀, hk', hbefore, hrefused⟩ := classifyAll_error h
          refine ⟨i + 1, k', r₀, hk', ?_, hrefused⟩
          rw [List.take_succ_cons]
          unfold Access.classifyAll
          rw [hc]
          exact hbefore

/-- The first one that is refused leaves those before it done, and nothing of its own or of those behind it but perhaps
a builder of its type. It would be refused again. -/
theorem registered_of_error {cs : List Classification} (h : Access.classifyAll r cs = (r', .error f)) :
    f.isRegistration = true ∧ ∃ i k r₀, cs[i]? = some k ∧ Access.classifyAll r (cs.take i) = (r₀, .ok ()) ∧
      r₀.classify k.entity k.field k.dimension = (r', .error f) ∧
      Registered r r' (cs.take i) (cs.take (i + 1)) ∧ r'.classify k.entity k.field k.dimension = (r', .error f) := by
  obtain ⟨i, k, r₀, hk, hbefore, hrefused⟩ := classifyAll_error h
  obtain ⟨hleft, hagain, hfault⟩ := classify_error hrefused
  have hregistered := (registered_classifyAll hbefore).trans (r₀.registered_get k)
  have htouched : cs.take (i + 1) = cs.take i ++ [k] := by rw [List.take_add_one, hk]; rfl
  rw [← hleft, List.append_nil, ← htouched] at hregistered
  exact ⟨hfault, i, k, r₀, hk, hbefore, hrefused, hregistered, hagain⟩

end Registry

end RowAccess
