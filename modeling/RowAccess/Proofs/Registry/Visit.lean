import Mathlib.Data.List.Basic
import Mathlib.Tactic.Common
import RowAccess.Proofs.Registry.Bound
import RowAccess.Proofs.Registry.Frame

/-!
# Visits that come to an end

`Registry.resolve` may visit a number of types that is given beforehand. `Visit` says without any such number how a
type is visited: which types are visited within it, and what comes of it. A visit has one outcome at most. It has
one wherever the types being visited are all different and known, and there `resolve` comes to that outcome.
-/

namespace RowAccess.Registry

open RowAccess.Builder (Resolved)

/-- The types being visited before a type is visited, while it is, and when it is left again. -/
structure Stay where
  before : List String
  within : List String
  after : List String
deriving DecidableEq

/-- The stay of a visit with an outcome. -/
def Stay.of (t : Traversal) (entity : String) (out : Traversal × Except Fault Resolved) : Stay :=
  ⟨t.visiting, t.visiting ++ [entity], out.1.visiting⟩

/-- What a composition comes to once the parents are resolved. -/
def conclude (entity : String) (own : Restriction) (generation : Nat)
    (walked : Traversal × Except Fault (List (Edge × Resolved) × Bool)) : Traversal × Except Fault Resolved :=
  match walked with
  | (t, .error f) => (t, .error f)
  | (t, .ok (parents, complete)) =>
      match t.registry.builder? entity with
      | none => (t, .error (.unknownEntityType entity))
      | some b =>
          let (b, serial, resolved) := b.settle own generation parents complete t.registry.serial
          ({ t with registry := { t.registry with serial }.put b }, .ok resolved)

/-- What is concluded leaves all facts as they are. -/
theorem extends_conclude (entity : String) (own : Restriction) (generation : Nat)
    (walked : Traversal × Except Fault (List (Edge × Resolved) × Bool)) :
    Extends walked.1.registry (conclude entity own generation walked).1.registry := by
  obtain ⟨t, result⟩ := walked
  cases result with
  | error f => exact .refl _
  | ok x =>
    simp only [conclude]
    cases hb : t.registry.builder? entity with
    | none => exact .refl _
    | some b =>
      obtain rfl := builder?_entity hb
      have hfacts := facts_settle b own generation x.1 x.2 t.registry.serial
      exact extends_put ((entity_eq_of_facts hfacts).symm ▸ hb) hfacts _

/-- Once the parents of a type with a builder are resolved, its composition cannot fail any more. -/
theorem conclude_error {entity : String} {own : Restriction} {generation : Nat} {b : Builder} {f : Fault}
    {walked : Traversal × Except Fault (List (Edge × Resolved) × Bool)}
    (hb : walked.1.registry.builder? entity = some b) (h : (conclude entity own generation walked).2 = .error f) :
    walked = (walked.1, .error f) := by
  obtain ⟨t, result⟩ := walked
  cases result with
  | error g =>
    obtain rfl := Except.error.inj h
    rfl
  | ok x =>
    simp only [conclude, hb] at h
    cases h

/-- The type that is visited last is left. -/
def leave (out : Traversal × Except Fault Resolved) : Traversal × Except Fault Resolved :=
  ({ out.1 with visiting := out.1.visiting.dropLast }, out.2)

mutual

/-- A visit of a type that comes to an end: how many visits there are within each other at most, all stays in the
order in which they begin, and the outcome. -/
inductive Visit (view : SourceView) :
    Traversal → String → Nat → List Stay → Traversal × Except Fault Resolved → Prop
  | unknown {t : Traversal} {entity : String} {r : Registry} {f : Fault}
      (hget : t.registry.get entity = (r, .error f)) :
      Visit view t entity 0 [] ({ t with registry := r }, .error f)
  | unread {t : Traversal} {entity : String} {r r' : Registry} {b : Builder} {f : Fault}
      {out : Traversal × Except Fault Resolved}
      (hget : t.registry.get entity = (r, .ok b)) (hown : r.resolveOwn view b = (r', .error f))
      (hout : out = leave (⟨r', t.visiting ++ [entity]⟩, .error f)) :
      Visit view t entity 1 [.of t entity out] out
  | known {t : Traversal} {entity : String} {r r' : Registry} {b : Builder} {own : Restriction}
      {generation depth : Nat} {stays : List Stay} {out : Traversal × Except Fault Resolved}
      {walked : Traversal × Except Fault (List (Edge × Resolved) × Bool)}
      (hget : t.registry.get entity = (r, .ok b)) (hown : r.resolveOwn view b = (r', .ok (own, generation)))
      (hwalk : Walk view ⟨r', t.visiting ++ [entity]⟩ b.schema.edges depth stays walked)
      (hout : out = leave (conclude b.entity own generation walked)) :
      Visit view t entity (depth + 1) (.of t entity out :: stays) out

/-- Visits along edges, one after another up to the first that fails, but for edges to types being visited. -/
inductive Walk (view : SourceView) :
    Traversal → List Edge → Nat → List Stay → Traversal × Except Fault (List (Edge × Resolved) × Bool) → Prop
  | done {t : Traversal} : Walk view t [] 0 [] (t, .ok ([], true))
  | cut {t : Traversal} {e : Edge} {rest : List Edge} {depth : Nat} {stays : List Stay}
      {out : Traversal × Except Fault (List (Edge × Resolved) × Bool)} (h : e.target ∈ t.visiting)
      (hrest : Walk view t rest depth stays out) :
      Walk view t (e :: rest) depth stays (out.1, out.2.map fun x => (x.1, false))
  | failed {t t' : Traversal} {e : Edge} {rest : List Edge} {depth : Nat} {stays : List Stay} {f : Fault}
      (h : e.target ∉ t.visiting) (hvisit : Visit view t e.target depth stays (t', .error f)) :
      Walk view t (e :: rest) depth stays (t', .error f)
  | visited {t t' : Traversal} {e : Edge} {rest : List Edge} {depth depth' : Nat} {stays stays' : List Stay}
      {p : Resolved} {out : Traversal × Except Fault (List (Edge × Resolved) × Bool)}
      (h : e.target ∉ t.visiting) (hvisit : Visit view t e.target depth stays (t', .ok p))
      (hrest : Walk view t' rest depth' stays' out) :
      Walk view t (e :: rest) (max depth depth') (stays ++ stays')
        (out.1, out.2.map fun x => ((e, p) :: x.1, p.complete && x.2))

end

/-! ### One outcome at most -/

mutual

theorem Visit.unique {view : SourceView} {t : Traversal} {entity : String} {depth depth' : Nat}
    {stays stays' : List Stay} {out out' : Traversal × Except Fault Resolved} :
    Visit view t entity depth stays out → Visit view t entity depth' stays' out' →
      depth' = depth ∧ stays' = stays ∧ out' = out
  | .unknown hget, .unknown hget' => by
      cases hget.symm.trans hget'
      exact ⟨rfl, rfl, rfl⟩
  | .unknown hget, .unread hget' _ _ => by cases hget.symm.trans hget'
  | .unknown hget, .known hget' _ _ _ => by cases hget.symm.trans hget'
  | .unread hget _ _, .unknown hget' => by cases hget.symm.trans hget'
  | .unread hget hown hout, .unread hget' hown' hout' => by
      cases hget.symm.trans hget'
      cases hown.symm.trans hown'
      obtain rfl := hout'.trans hout.symm
      exact ⟨rfl, rfl, rfl⟩
  | .unread hget hown _, .known hget' hown' _ _ => by
      cases hget.symm.trans hget'
      cases hown.symm.trans hown'
  | .known hget _ _ _, .unknown hget' => by cases hget.symm.trans hget'
  | .known hget hown _ _, .unread hget' hown' _ => by
      cases hget.symm.trans hget'
      cases hown.symm.trans hown'
  | .known hget hown hwalk hout, .known hget' hown' hwalk' hout' => by
      cases hget.symm.trans hget'
      cases hown.symm.trans hown'
      obtain ⟨rfl, rfl, rfl⟩ := hwalk.unique hwalk'
      obtain rfl := hout'.trans hout.symm
      exact ⟨rfl, rfl, rfl⟩

theorem Walk.unique {view : SourceView} {t : Traversal} {edges : List Edge} {depth depth' : Nat}
    {stays stays' : List Stay} {out out' : Traversal × Except Fault (List (Edge × Resolved) × Bool)} :
    Walk view t edges depth stays out → Walk view t edges depth' stays' out' →
      depth' = depth ∧ stays' = stays ∧ out' = out
  | .done, .done => ⟨rfl, rfl, rfl⟩
  | .cut _ hrest, .cut _ hrest' => by
      obtain ⟨rfl, rfl, rfl⟩ := hrest.unique hrest'
      exact ⟨rfl, rfl, rfl⟩
  | .cut hin _, .failed hnew _ => absurd hin hnew
  | .cut hin _, .visited hnew _ _ => absurd hin hnew
  | .failed hnew _, .cut hin _ => absurd hin hnew
  | .failed _ hvisit, .failed _ hvisit' => by
      obtain ⟨rfl, rfl, hout⟩ := hvisit.unique hvisit'
      cases hout
      exact ⟨rfl, rfl, rfl⟩
  | .failed _ hvisit, .visited _ hvisit' _ => by cases (hvisit.unique hvisit').2.2
  | .visited hnew _ _, .cut hin _ => absurd hin hnew
  | .visited _ hvisit _, .failed _ hvisit' => by cases (hvisit.unique hvisit').2.2
  | .visited _ hvisit hrest, .visited _ hvisit' hrest' => by
      obtain ⟨rfl, rfl, hout⟩ := hvisit.unique hvisit'
      cases hout
      obtain ⟨rfl, rfl, rfl⟩ := hrest.unique hrest'
      exact ⟨rfl, rfl, rfl⟩

end

/-! ### Parents, edge by edge -/

section Parents

variable {visit : Traversal → String → Traversal × Except Fault Resolved} {t t' : Traversal} {e : Edge}
  {rest : List Edge}

theorem resolveParents_cut (h : e.target ∈ t.visiting) :
    resolveParents visit t (e :: rest) =
      ((resolveParents visit t rest).1, (resolveParents visit t rest).2.map fun x => (x.1, false)) := by
  rw [resolveParents, if_pos (List.contains_iff_mem.mpr h)]
  generalize resolveParents visit t rest = out
  obtain ⟨t', result⟩ := out
  cases result <;> rfl

theorem resolveParents_failed {f : Fault} (h : e.target ∉ t.visiting) (hvisit : visit t e.target = (t', .error f)) :
    resolveParents visit t (e :: rest) = (t', .error f) := by
  rw [resolveParents, if_neg fun hin => h (List.contains_iff_mem.mp hin), hvisit]

theorem resolveParents_visited {p : Resolved} (h : e.target ∉ t.visiting)
    (hvisit : visit t e.target = (t', .ok p)) :
    resolveParents visit t (e :: rest) =
      ((resolveParents visit t' rest).1,
        (resolveParents visit t' rest).2.map fun x => ((e, p) :: x.1, p.complete && x.2)) := by
  rw [resolveParents, if_neg fun hin => h (List.contains_iff_mem.mp hin), hvisit]
  dsimp only
  generalize resolveParents visit t' rest = out
  obtain ⟨t'', result⟩ := out
  cases result <;> rfl

end Parents

/-! ### Visits that the bound allows -/

/-- A stay among known types that are all different, after which the types being visited are as they were. -/
structure Stay.Sound (known : List String) (s : Stay) : Prop where
  onWay : OnWay known s.within
  entered : ∃ entity, s.within = s.before ++ [entity]
  restored : s.after = s.before

variable {view : SourceView} {known visiting : List String} {facts : String → Except Fault Facts} {fuel : Nat}

/-- Visits at a bound come to an end with the outcome of the bounded traversal: they lie no deeper within each other
than known types are left, and all their stays are sound. -/
def Ends (view : SourceView) (known : List String) (fuel : Nat) (t : Traversal) (entity : String) : Prop :=
  ∃ depth stays, Visit view t entity depth stays (resolve view fuel t entity) ∧
    depth + t.visiting.length ≤ known.length ∧ ∀ s ∈ stays, s.Sound known

theorem sound_stay {t : Traversal} {entity : String} (h : OnWay known (t.visiting ++ [entity])) :
    (Stay.of t entity (resolve view fuel t entity)).Sound known :=
  ⟨h, ⟨entity, rfl⟩, (continues_resolve view fuel t entity).visiting⟩

/-- If all visits of types that are not being visited come to an end, so do walks along edges. -/
theorem walk_ends (hway : OnWay known visiting)
    (hvisit : ∀ {t : Traversal} {entity : String}, t.registry.facts = facts → t.visiting = visiting →
      entity ∉ t.visiting → Ends view known fuel t entity) :
    ∀ (edges : List Edge) {t : Traversal}, t.registry.facts = facts → t.visiting = visiting →
      ∃ depth stays, Walk view t edges depth stays (resolveParents (resolve view fuel) t edges) ∧
        depth + visiting.length ≤ known.length ∧ ∀ s ∈ stays, s.Sound known
  | [], _, _, _ => ⟨0, [], .done, by rw [Nat.zero_add]; exact hway.length_le, nofun⟩
  | e :: rest, t, hf, hvis => by
      by_cases hin : e.target ∈ t.visiting
      · obtain ⟨depth, stays, hwalk, hdepth, hsound⟩ := walk_ends hway hvisit rest hf hvis
        exact ⟨depth, stays, resolveParents_cut hin ▸ .cut hin hwalk, hdepth, hsound⟩
      · have hcont := continues_resolve view fuel t e.target
        obtain ⟨depth, stays, hfirst, hdepth, hsound⟩ := hvisit hf hvis hin
        rw [hvis] at hdepth
        cases hout : resolve view fuel t e.target with
        | mk t' result =>
          rw [hout] at hcont hfirst
          cases result with
          | error f => exact ⟨depth, stays, resolveParents_failed hin hout ▸ .failed hin hfirst, hdepth, hsound⟩
          | ok p =>
            obtain ⟨depth', stays', hwalk, hdepth', hsound'⟩ :=
              walk_ends hway hvisit rest (hcont.extension.facts.trans hf) (hcont.visiting.trans hvis)
            refine ⟨max depth depth', stays ++ stays', resolveParents_visited hin hout ▸ .visited hin hfirst hwalk,
              ?_, fun s hs => ?_⟩
            · omega
            · exact (List.mem_append.mp hs).elim (hsound s) (hsound' s)

theorem compose_eq (visit : Traversal → String → Traversal × Except Fault Resolved) (view : SourceView)
    (t : Traversal) (b : Builder) :
    compose visit view t b =
      match t.registry.resolveOwn view b with
      | (r, .error f) => ({ t with registry := r }, .error f)
      | (r, .ok (own, generation)) =>
          conclude b.entity own generation (resolveParents visit { t with registry := r } b.schema.edges) := rfl

/-- The visit of a type whose own fields demand nothing ends with them. -/
theorem resolve_unread {t : Traversal} {r r' : Registry} {b : Builder} {f : Fault}
    (hg : t.registry.get b.entity = (r, .ok b)) (ho : r.resolveOwn view b = (r', .error f)) :
    resolve view (fuel + 1) t b.entity = leave (⟨r', t.visiting ++ [b.entity]⟩, .error f) := by
  rw [resolve, hg]
  dsimp only
  rw [compose_eq]
  simp only [ho]
  rfl

/-- Any other visit of a type with a builder comes to what is concluded from its parents. -/
theorem resolve_known {t : Traversal} {r r' : Registry} {b : Builder} {own : Restriction} {generation : Nat}
    (hg : t.registry.get b.entity = (r, .ok b)) (ho : r.resolveOwn view b = (r', .ok (own, generation))) :
    resolve view (fuel + 1) t b.entity = leave (conclude b.entity own generation
      (resolveParents (resolve view fuel) ⟨r', t.visiting ++ [b.entity]⟩ b.schema.edges)) := by
  rw [resolve, hg]
  dsimp only
  rw [compose_eq]
  simp only [ho]
  rfl

/-- A type with a builder is visited to the end, if all types that its edges lead to are. -/
theorem ends_of_get {t : Traversal} {r : Registry} {b : Builder} (hg : t.registry.get b.entity = (r, .ok b))
    (hf : r.facts = facts) (hway : OnWay known (t.visiting ++ [b.entity]))
    (hvisit : ∀ {t' : Traversal} {entity : String}, t'.registry.facts = facts →
      t'.visiting = t.visiting ++ [b.entity] → entity ∉ t'.visiting → Ends view known fuel t' entity) :
    Ends view known (fuel + 1) t b.entity := by
  have hstay : (Stay.of t b.entity (resolve view (fuel + 1) t b.entity)).Sound known := sound_stay hway
  have hlength : (t.visiting ++ [b.entity]).length = t.visiting.length + 1 := List.length_append
  have hown := extends_resolveOwn (get_ok hg) view
  cases ho : r.resolveOwn view b with
  | mk r' result =>
    rw [ho] at hown
    cases result with
    | error f =>
      have hle := hway.length_le
      exact ⟨1, _, .unread hg ho (resolve_unread hg ho), by omega, fun s hs => List.mem_singleton.mp hs ▸ hstay⟩
    | ok x =>
      obtain ⟨depth, stays, hwalk, hdepth, hsound⟩ :=
        walk_ends hway hvisit b.schema.edges (t := ⟨r', t.visiting ++ [b.entity]⟩) (hown.facts.trans hf) rfl
      refine ⟨depth + 1, _, .known hg ho hwalk (resolve_known hg ho), by omega, fun s hs => ?_⟩
      rcases List.mem_cons.mp hs with rfl | hs
      · exact hstay
      · exact hsound s hs

/-- Where more visits are left than there are known types, a visit of a type that is not being visited comes to an
end. -/
theorem visit_ends (hknown : ∀ {e k}, facts e = .ok k → e ∈ known) :
    ∀ (fuel : Nat) {t : Traversal} {entity : String}, t.registry.facts = facts → OnWay known t.visiting →
      entity ∉ t.visiting → known.length < t.visiting.length + fuel → Ends view known fuel t entity
  | 0, _, _, _, hway, _, hlt => absurd hway.length_le (Nat.not_le.mpr hlt)
  | fuel + 1, t, entity, hf, hway, hnew, hlt => by
      have hext := extends_get t.registry entity
      cases hg : t.registry.get entity with
      | mk r result =>
        rw [hg] at hext
        cases result with
        | error f =>
          have hout : resolve view (fuel + 1) t entity = ({ t with registry := r }, .error f) := by
            rw [resolve, hg]
          exact ⟨0, [], hout ▸ .unknown hg, by rw [Nat.zero_add]; exact hway.length_le, nofun⟩
        | ok b =>
          obtain rfl := builder?_entity (get_ok hg)
          have hfacts : r.facts = facts := hext.facts.trans hf
          have hin := hway.enter (hknown (hfacts ▸ facts_of_builder (get_ok hg))) hnew
          refine ends_of_get hg hfacts hin fun hf' hvis hnew' => ?_
          refine visit_ends hknown fuel hf' (hvis ▸ hin) hnew' ?_
          rw [hvis, List.length_append, List.length_singleton]
          omega

/-! ### Bounds do not matter -/

mutual

/-- A visit is what any bounded traversal comes to that may go as deep. -/
theorem Visit.resolve_eq {t : Traversal} {entity : String} {depth : Nat} {stays : List Stay}
    {out : Traversal × Except Fault Resolved} :
    Visit view t entity depth stays out → ∀ fuel, depth ≤ fuel → resolve view (fuel + 1) t entity = out
  | .unknown hget, _, _ => by rw [resolve, hget]
  | .unread hget hown hout, _, _ => by
      obtain rfl := builder?_entity (get_ok hget)
      rw [hout, resolve_unread hget hown]
  | .known hget hown hwalk hout, fuel + 1, hle => by
      have hwalked := hwalk.resolveParents_eq fuel (Nat.le_of_succ_le_succ hle)
      obtain rfl := builder?_entity (get_ok hget)
      rw [hout, resolve_known hget hown, hwalked]

theorem Walk.resolveParents_eq {t : Traversal} {edges : List Edge} {depth : Nat} {stays : List Stay}
    {out : Traversal × Except Fault (List (Edge × Resolved) × Bool)} :
    Walk view t edges depth stays out →
      ∀ fuel, depth ≤ fuel → resolveParents (resolve view (fuel + 1)) t edges = out
  | .done, _, _ => rfl
  | .cut h hrest, fuel, hle => by rw [resolveParents_cut h, hrest.resolveParents_eq fuel hle]
  | .failed h hvisit, fuel, hle => resolveParents_failed h (hvisit.resolve_eq fuel hle)
  | .visited h hvisit hrest, fuel, hle => by
      have hfirst := hvisit.resolve_eq fuel (Nat.le_trans (Nat.le_max_left _ _) hle)
      have hlast := hrest.resolveParents_eq fuel (Nat.le_trans (Nat.le_max_right _ _) hle)
      rw [resolveParents_visited h hfirst, hlast]

end

end RowAccess.Registry
