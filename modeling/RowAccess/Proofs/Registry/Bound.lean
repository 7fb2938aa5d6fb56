import Mathlib.Data.List.Basic
import Mathlib.Data.List.Nodup
import Mathlib.Data.List.Perm.Subperm
import Mathlib.Tactic.Common
import RowAccess.Proofs.Registry.Lookup

/-!
# The bound of a traversal

The types being visited are known and all different, so there are never more of them than a registry knows
types. A traversal that may visit more than that never runs out, and what it means depends on the facts
alone: not on how many builders were made.
-/

namespace RowAccess

/-- Types being visited that are all different and known. -/
structure OnWay (known visiting : List String) : Prop where
  distinct : visiting.Nodup
  known : visiting ⊆ known

namespace OnWay

variable {known visiting : List String} {entity : String}

theorem start (known : List String) : OnWay known [] := ⟨List.nodup_nil, List.nil_subset known⟩

theorem length_le (h : OnWay known visiting) : visiting.length ≤ known.length :=
  (List.subperm_of_subset h.distinct h.known).length_le

/-- A known type that is not being visited is visited besides. -/
theorem enter (h : OnWay known visiting) (hknown : entity ∈ known) (hnew : entity ∉ visiting) :
    OnWay known (visiting ++ [entity]) := by
  constructor
  · rw [← List.concat_eq_append]
    exact h.distinct.concat hnew
  · intro t ht
    rcases List.mem_append.mp ht with ht | ht
    · exact h.known ht
    · rwa [List.mem_singleton.mp ht]

end OnWay

namespace Facts

variable {facts : String → Except Fault Facts} {tokens : String → List String} {known : List String}

theorem ofParents_congr {visit visit' : String → Except Fault (Option Predicate × Bool)}
    {visiting : List String} :
    ∀ {edges : List Edge}, (∀ e ∈ edges, e.target ∉ visiting → visit e.target = visit' e.target) →
      ofParents visit visiting edges = ofParents visit' visiting edges
  | [], _ => rfl
  | e :: rest, h => by
      have hrest := ofParents_congr fun e' he' => h e' (List.mem_cons_of_mem _ he')
      unfold ofParents
      rw [hrest]
      by_cases hin : e.target ∈ visiting
      · rw [if_pos (List.contains_iff_mem.mpr hin), if_pos (List.contains_iff_mem.mpr hin)]
      · have hc : ¬ visiting.contains e.target = true := fun hc => hin (List.contains_iff_mem.mp hc)
        rw [if_neg hc, if_neg hc, h e List.mem_cons_self hin]

/-- Where more visits are left than there are known types, it does not matter how many more. -/
theorem meaning_eq_of_lt (hknown : ∀ {e k}, facts e = .ok k → e ∈ known) :
    ∀ {fuel fuel' : Nat} {visiting : List String} {entity : String}, OnWay known visiting →
      entity ∉ visiting → known.length < visiting.length + fuel →
      known.length < visiting.length + fuel' →
      meaning facts tokens fuel visiting entity = meaning facts tokens fuel' visiting entity
  | 0, _, _, _, hway, _, hlt, _ => absurd hway.length_le (Nat.not_le.mpr hlt)
  | _ + 1, 0, _, _, hway, _, _, hlt => absurd hway.length_le (Nat.not_le.mpr hlt)
  | fuel + 1, fuel' + 1, visiting, entity, hway, hnew, hlt, hlt' => by
      unfold meaning
      cases hf : facts entity with
      | error f => rfl
      | ok k =>
        have hparents : ofParents (meaning facts tokens fuel (visiting ++ [entity]))
              (visiting ++ [entity]) k.edges =
            ofParents (meaning facts tokens fuel' (visiting ++ [entity]))
              (visiting ++ [entity]) k.edges := by
          refine ofParents_congr fun e _ htarget => ?_
          refine meaning_eq_of_lt hknown (hway.enter (hknown hf) hnew) htarget ?_ ?_
          · rw [List.length_append, List.length_singleton]
            omega
          · rw [List.length_append, List.length_singleton]
            omega
        dsimp only
        rw [hparents]

end Facts

namespace Registry

variable {r r' : Registry}

/-- The types that a registry knows. -/
def types (r : Registry) : List String := r.catalog.map Schema.entity ++ r.builders.map Builder.entity

theorem length_types (r : Registry) : r.types.length = r.typeBound := by
  simp [types, typeBound]

theorem mem_types {e : String} {k : Facts} (h : r.facts e = .ok k) : e ∈ r.types := by
  unfold types
  rw [facts_eq] at h
  cases hb : r.builder? e with
  | some b =>
    have hentity := builder?_entity hb
    have hmem : b ∈ r.builders := List.mem_of_find?_eq_some hb
    exact List.mem_append_right _ (hentity ▸ List.mem_map_of_mem hmem)
  | none =>
    rw [hb] at h
    exact List.mem_append_left _ (List.mem_map.mpr (Catalog.exists_of_facts h))

/-- What requests mean depends on the facts of a registry alone. -/
theorem inclusiveMeaning_congr (h : r'.facts = r.facts) : r'.inclusiveMeaning = r.inclusiveMeaning := by
  funext tokens entity
  have hmem : ∀ {e k}, r.facts e = .ok k → e ∈ r.types := fun hf => mem_types hf
  have hmem' : ∀ {e k}, r.facts e = .ok k → e ∈ r'.types := fun hf => mem_types (h ▸ hf)
  unfold inclusiveMeaning
  rw [h]
  congr 1
  -- The shorter list of types bounds both traversals.
  rcases Nat.le_total r.typeBound r'.typeBound with hle | hle
  · refine Facts.meaning_eq_of_lt hmem (.start _) List.not_mem_nil ?_ ?_
    · rw [length_types, List.length_nil]
      omega
    · rw [length_types, List.length_nil]
      omega
  · refine Facts.meaning_eq_of_lt hmem' (.start _) List.not_mem_nil ?_ ?_
    · rw [length_types, List.length_nil]
      omega
    · rw [length_types, List.length_nil]
      omega

theorem ownMeaning_congr (h : r'.facts = r.facts) : r'.ownMeaning = r.ownMeaning := by
  funext tokens entity
  unfold ownMeaning
  rw [h]

end Registry

end RowAccess
