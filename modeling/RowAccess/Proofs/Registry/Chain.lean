import Mathlib.Data.List.Basic
import Mathlib.Tactic.Common
import RowAccess.Proofs.Predicate.Held
import RowAccess.Proofs.Registry.Fresh

/-!
# What types and their ancestors demand

A chain of edges leads from a type to one of its ancestors, and a field that is classified there demands
something of the value at the end of the chain. `Facts.Means` says of the content of a restriction that it
is the conjunction of some such demands, and open where there are none. What a traversal puts together
means the demands along all chains that visit no type twice.
-/

namespace RowAccess

namespace Facts

/-- Demands on rows: the names of the edges on the way, and the classified field at their end. -/
abbrev Demands := List String → Classified → Prop

/-- Whether held tokens admit what a row has in a classified field at the end of some edges. -/
def Meets (tokens : String → List String) (edges : List String) (c : Classified) (r : Row) : Prop :=
  Token.Admit c.kind ((tokens c.dimension).map Token.parse) (FieldPath.resolve ⟨edges, c.field⟩ r)

/-- A content that is the conjunction of some demands. -/
structure Means (tokens : String → List String) (content : Option Predicate) (demands : Demands) :
    Prop where
  isOpen : content = none ↔ ∀ edges c, ¬ demands edges c
  admits : ∀ r, content.all (·.admits r) = true ↔
    ∀ edges c, demands edges c → Meets tokens edges c r

variable {tokens : String → List String} {content : Option Predicate} {p : Predicate}
  {demands demands' : Demands}

theorem Means.congr (h : Means tokens content demands)
    (heq : ∀ edges c, demands edges c ↔ demands' edges c) : Means tokens content demands' := by
  obtain rfl : demands = demands' := by
    funext edges c
    exact propext (heq edges c)
  exact h

theorem means_none (tokens : String → List String) : Means tokens none fun _ _ => False :=
  ⟨⟨fun _ _ _ h => h, fun _ => rfl⟩, fun _ => ⟨fun _ _ _ h => h.elim, fun _ => rfl⟩⟩

/-! ### Demands together -/

/-- A content that is narrowed by a predicate demands both. -/
theorem Means.narrow (h : Means tokens content demands) (hp : Means tokens (some p) demands') :
    Means tokens (some (Restriction.narrow content p))
      fun edges c => demands edges c ∨ demands' edges c := by
  have hall : ∀ r, (some (Restriction.narrow content p)).all (·.admits r) =
      (content.all (·.admits r) && (some p).all (·.admits r)) := by
    intro r
    cases content with
    | none => rfl
    | some q => exact Predicate.admits_and q p r
  refine ⟨⟨?_, ?_⟩, fun r => ?_⟩
  · intro hnone
    cases hnone
  · intro hno
    cases hp.isOpen.mpr fun edges c hd => hno edges c (.inr hd)
  · rw [hall, Bool.and_eq_true, h.admits, hp.admits]
    constructor
    · rintro ⟨hleft, hright⟩ edges c hd
      exact hd.elim (hleft edges c) (hright edges c)
    · intro hboth
      exact ⟨fun edges c hd => hboth edges c (.inl hd), fun edges c hd => hboth edges c (.inr hd)⟩

/-- Demands moved to the end of an edge. -/
def Demands.beyond (edge : String) (demands : Demands) : Demands := fun edges c =>
  ∃ rest, edges = edge :: rest ∧ demands rest c

theorem meets_cons {edge : String} {edges : List String} {c : Classified} {r : Row} :
    Meets tokens (edge :: edges) c r ↔ Meets tokens edges c (r.beyond edge) := by
  unfold Meets
  rw [← FieldPath.resolve_rebase]
  rfl

theorem Means.rebase (h : Means tokens (some p) demands) (edge : String) :
    Means tokens (some (p.rebase edge)) (demands.beyond edge) := by
  refine ⟨⟨?_, ?_⟩, fun r => ?_⟩
  · intro hnone
    cases hnone
  · intro hno
    cases h.isOpen.mpr fun edges c hd => hno (edge :: edges) c ⟨edges, rfl, hd⟩
  · have hbeyond := h.admits (r.beyond edge)
    simp only [Option.all_some] at hbeyond ⊢
    rw [Predicate.admits_rebase, hbeyond]
    constructor
    · rintro hall edges c ⟨rest, rfl, hd⟩
      exact meets_cons.mpr (hall rest c hd)
    · intro hall edges c hd
      exact meets_cons.mp (hall (edge :: edges) c ⟨edges, rfl, hd⟩)

/-! ### Own fields -/

/-- The demand of one field. -/
theorem means_field {c : Classified}
    (h : Predicate.ofTokens? (.own c.field) c.kind (tokens c.dimension) = .ok p) :
    Means tokens (some p) fun edges c' => edges = [] ∧ c' = c := by
  refine ⟨⟨?_, ?_⟩, fun r => ?_⟩
  · intro hnone
    cases hnone
  · exact fun hno => (hno [] c ⟨rfl, rfl⟩).elim
  · rw [Option.all_some, Predicate.admits_ofTokens? h]
    constructor
    · rintro hmeets edges c' ⟨rfl, rfl⟩
      exact hmeets
    · exact fun hall => hall [] c ⟨rfl, rfl⟩

theorem means_demand_from {classified : List Classified} {start : Option Predicate}
    (hstart : Means tokens start demands)
    (h : classified.foldlM
      (fun content c => do
        let p ← Predicate.ofTokens? (.own c.field) c.kind (tokens c.dimension)
        return some (Restriction.narrow content p)) start = Except.ok content) :
    Means tokens content fun edges c => demands edges c ∨ edges = [] ∧ c ∈ classified := by
  induction classified generalizing start demands with
  | nil =>
    cases h
    exact hstart.congr fun edges c => by simp
  | cons c rest ih =>
    rw [List.foldlM_cons] at h
    cases hp : Predicate.ofTokens? (.own c.field) c.kind (tokens c.dimension) with
    | error f => rw [hp] at h; cases h
    | ok p =>
      rw [hp] at h
      refine (ih (hstart.narrow (means_field hp)) h).congr fun edges c' => ?_
      rw [List.mem_cons, or_assoc, ← and_or_left]

/-- The own fields of a type demand what is classified there. -/
theorem means_demand {classified : List Classified} (h : demand tokens classified = .ok content) :
    Means tokens content fun edges c => edges = [] ∧ c ∈ classified :=
  (means_demand_from (means_none tokens) h).congr fun edges c => by simp

/-! ### Ancestors -/

/-- Parents demand what the types mean that edges lead to, but for those that are being visited. -/
theorem means_ofParents {visit : String → Except Fault (Option Predicate × Bool)}
    {visiting : List String} {meanings : String → Demands}
    (hvisit : ∀ {entity x b}, entity ∉ visiting → visit entity = .ok (x, b) →
      Means tokens x (meanings entity)) :
    ∀ {edges : List Edge} {parents : List (String × Option Predicate)} {complete : Bool}
      {own : Option Predicate} {demands : Demands}, Means tokens own demands →
      ofParents visit visiting edges = .ok (parents, complete) →
      Means tokens (combine own parents) fun names c => demands names c ∨
        ∃ e ∈ edges, e.target ∉ visiting ∧ (meanings e.target).beyond e.name names c
  | [], parents, complete, own, demands, hown, h => by
      cases h
      exact hown.congr fun names c => by simp
  | e :: rest, parents, complete, own, demands, hown, h => by
      unfold ofParents at h
      by_cases hin : visiting.contains e.target
      · rw [if_pos hin] at h
        have hvisited : e.target ∈ visiting := List.contains_iff_mem.mp hin
        cases hrest : ofParents visit visiting rest with
        | error f => rw [hrest] at h; cases h
        | ok y =>
          rw [hrest] at h
          cases h
          refine (means_ofParents hvisit hown hrest).congr fun names c => ?_
          simp [hvisited]
      · rw [if_neg hin] at h
        have hnew : e.target ∉ visiting := fun hmem => hin (List.contains_iff_mem.mpr hmem)
        cases hx : visit e.target with
        | error f => rw [hx] at h; cases h
        | ok x =>
          rw [hx] at h
          cases hrest : ofParents visit visiting rest with
          | error f => rw [hrest] at h; cases h
          | ok y =>
            rw [hrest] at h
            cases h
            have hparent := hvisit hnew hx
            -- What the first parent adds to the content so far.
            have hfirst : Means tokens (combine own [(e.name, x.1)])
                fun names c => demands names c ∨ (meanings e.target).beyond e.name names c := by
              cases hq : x.1 with
              | none =>
                rw [hq] at hparent
                refine hown.congr fun names c => ⟨.inl, fun hd => hd.resolve_right ?_⟩
                rintro ⟨names', -, hd⟩
                exact hparent.isOpen.mp rfl names' c hd
              | some q =>
                rw [hq] at hparent
                exact hown.narrow (hparent.rebase e.name)
            refine (means_ofParents hvisit hfirst hrest).congr fun names c => ?_
            simp [hnew, or_assoc]

/-- A chain of edges from a type to another. -/
def Chain (facts : String → Except Fault Facts) : String → List Edge → String → Prop
  | start, [], stop => start = stop
  | start, e :: rest, stop =>
      (∃ known, facts start = .ok known ∧ e ∈ known.edges) ∧ Chain facts e.target rest stop

/-- The types on a chain of edges. -/
def visited (start : String) (edges : List Edge) : List String := start :: edges.map Edge.target

/-- The demands of a type with its ancestors while some types are being visited: those at the ends of the
chains that visit no type twice. -/
def reached (facts : String → Except Fault Facts) (visiting : List String) (start : String) :
    Demands := fun names c =>
  ∃ edges stop known, Chain facts start edges stop ∧ (visited start edges).Nodup ∧
    (∀ t ∈ visited start edges, t ∉ visiting) ∧ facts stop = .ok known ∧ c ∈ known.classified ∧
    names = edges.map Edge.name

/-- A type demands what is classified there, and what its parents demand without going through it. -/
theorem reached_iff {facts : String → Except Fault Facts} {visiting : List String} {start : String}
    {known : Facts} (hknown : facts start = .ok known) (hstart : start ∉ visiting)
    {names : List String} {c : Classified} :
    reached facts visiting start names c ↔
      (names = [] ∧ c ∈ known.classified) ∨
        ∃ e ∈ known.edges, e.target ∉ visiting ++ [start] ∧
          (reached facts (visiting ++ [start]) e.target).beyond e.name names c := by
  constructor
  · rintro ⟨edges, stop, known', hchain, hnodup, hfresh, hstop, hc, rfl⟩
    cases edges with
    | nil =>
      obtain rfl : start = stop := hchain
      obtain rfl := Except.ok.inj (hknown.symm.trans hstop)
      exact .inl ⟨rfl, hc⟩
    | cons e rest =>
      obtain ⟨⟨known₀, hknown₀, he⟩, hrest⟩ := hchain
      obtain rfl := Except.ok.inj (hknown.symm.trans hknown₀)
      obtain ⟨hnot, hnodup'⟩ := List.nodup_cons.mp hnodup
      have hfresh' : ∀ t ∈ visited e.target rest, t ∉ visiting ++ [start] := by
        intro t ht hmem
        rcases List.mem_append.mp hmem with hmem | hmem
        · exact hfresh t (List.mem_cons_of_mem _ ht) hmem
        · exact hnot (List.mem_singleton.mp hmem ▸ ht)
      exact .inr ⟨e, he, hfresh' e.target List.mem_cons_self, rest.map Edge.name, rfl,
        rest, stop, known', hrest, hnodup', hfresh', hstop, hc, rfl⟩
  · rintro (⟨rfl, hc⟩ | ⟨e, he, -, -, rfl, rest, stop, known', hchain, hnodup, hfresh, hstop, hc, rfl⟩)
    · refine ⟨[], start, known, rfl, by simp [visited], ?_, hknown, hc, rfl⟩
      intro t ht
      rwa [List.mem_singleton.mp ht]
    · refine ⟨e :: rest, stop, known', ⟨⟨known, hknown, he⟩, hchain⟩, ?_, ?_, hstop, hc, rfl⟩
      · refine List.nodup_cons.mpr ⟨fun hmem => ?_, hnodup⟩
        exact hfresh start hmem (List.mem_append_right _ List.mem_cons_self)
      · intro t ht
        rcases List.mem_cons.mp ht with rfl | ht
        · exact hstart
        · exact fun hmem => hfresh t ht (List.mem_append_left _ hmem)

/-- A traversal means the demands at the ends of all chains that visit no type twice. -/
theorem means_meaning {facts : String → Except Fault Facts} :
    ∀ {fuel : Nat} {visiting : List String} {entity : String} {complete : Bool}
      {content : Option Predicate}, entity ∉ visiting →
      meaning facts tokens fuel visiting entity = .ok (content, complete) →
      Means tokens content (reached facts visiting entity)
  | 0, _, _, _, _, _, h => by cases h
  | fuel + 1, visiting, entity, complete, content, hnew, h => by
      unfold meaning at h
      cases hknown : facts entity with
      | error f => rw [hknown] at h; cases h
      | ok known =>
        rw [hknown] at h
        dsimp only at h
        cases hown : demand tokens known.classified with
        | error f => rw [hown] at h; cases h
        | ok own =>
          rw [hown] at h
          dsimp only at h
          cases hparents : ofParents (meaning facts tokens fuel (visiting ++ [entity]))
              (visiting ++ [entity]) known.edges with
          | error f => rw [hparents] at h; cases h
          | ok y =>
            rw [hparents] at h
            cases h
            have hvisit : ∀ {e x b}, e ∉ visiting ++ [entity] →
                meaning facts tokens fuel (visiting ++ [entity]) e = .ok (x, b) →
                Means tokens x (reached facts (visiting ++ [entity]) e) :=
              fun hnew h => means_meaning hnew h
            exact (means_ofParents hvisit (means_demand hown) hparents).congr
              fun names c => (reached_iff hknown hnew).symm

end Facts

end RowAccess
