import Mathlib.Data.List.Basic
import Mathlib.Tactic.Common
import RowAccess.Proofs.Access.Step
import RowAccess.Proofs.Registry.OwnSlot
import RowAccess.Proofs.Scope.Version
import RowAccess.Proofs.Source.Version

/-!
# Sources over a run

The stack and every static table keep the promise of their versions by themselves, over whole runs and
whatever lines do. A table of the host keeps it if the host does. `Access.observed` are all looks that the
requests of a run take at sources, and `Faithful` is what is asked of the host for them.
-/

namespace RowAccess

namespace Access

/-- An access control later in a run. -/
structure Follows (a a' : Access) : Prop where
  stack : a.stack.Follows a'.stack
  sources : ∀ {n : Nat} {s : Source}, a.sources[n]? = some s →
    ∃ s', a'.sources[n]? = some s' ∧ s.Follows s'

variable {a a' a'' : Access} {line : Nat} {action : Action}

theorem Follows.refl (a : Access) : Follows a a := ⟨.refl _, fun h => ⟨_, h, .refl _⟩⟩

theorem Follows.trans (h : Follows a a') (h' : Follows a' a'') : Follows a a'' where
  stack := h.stack.trans h'.stack
  sources hs := by
    obtain ⟨s', hs', hf⟩ := h.sources hs
    obtain ⟨s'', hs'', hf'⟩ := h'.sources hs'
    exact ⟨s'', hs'', hf.trans hf'⟩

theorem ScopeStep.follows {t : ScopeStack} {places : List Place}
    (h : ScopeStep a line action t places) : a.stack.Follows t := by
  cases h with
  | kept => exact .refl _
  | changed hc => exact hc.follows
  | entered => exact ScopeStack.follows_enter _ _
  | exited serial => exact ScopeStack.follows_exit _ _ serial
  | branched => exact .refl _

theorem SourceStep.follows {sources : List Source} (h : SourceStep a sources) {n : Nat} {s : Source}
    (hs : a.sources[n]? = some s) : ∃ s', sources[n]? = some s' ∧ s.Follows s' := by
  cases h with
  | kept => exact ⟨s, hs, .refl s⟩
  | added s₀ =>
    refine ⟨s, ?_, .refl s⟩
    rw [List.getElem?_append_left (List.getElem?_eq_some_iff.mp hs).1, hs]
  | changed m change =>
    rw [List.getElem?_modify, hs]
    refine ⟨_, rfl, ?_⟩
    dsimp only
    split
    · exact s.follows_change change
    · exact .refl s

theorem follows_perform (a : Access) (line : Nat) (action : Action) :
    Follows a (a.perform line action).1 :=
  ⟨(perform_scopes a line action).follows, (perform_sources a line action).follows⟩

/-! ### Looks at sources -/

theorem view_made_some {n : Nat} {s : Source} (h : a.sources[n]? = some s) :
    a.view line (.made n) = s.view n := by
  simp only [view, h]

theorem view_made_none {n : Nat} (h : a.sources[n]? = none) :
    a.view line (.made n) = ⟨.fresh n, none, fun _ => []⟩ := by
  simp only [view, h]

theorem id_made_ne_stack (a : Access) (line n : Nat) : (a.view line (.made n)).id ≠ .stack := by
  cases hs : a.sources[n]? with
  | none => rw [view_made_none hs]; simp
  | some s => rw [view_made_some hs]; cases s <;> simp [Source.view, Source.id]

theorem id_eq_fresh {s : Source} {n : Nat} (h : ∀ u, s.id n ≠ .host u) :
    s.id n = .fresh n := by
  cases s with
  | static => rfl
  | function => rfl
  | host u => exact absurd rfl (h u)

/-- Two looks at sources, at any two moments of a run and on any two lines, agree where the identity of
the source is not one that the host chose. -/
theorem Follows.agrees (h : Follows a a') {line line' : Nat} {r r' : SourceRef}
    (hhost : ∀ u, (a.view line r).id ≠ .host u) :
    (a.view line r).Agrees (a'.view line' r') := by
  intro v hid hv hv'
  cases r with
  | stack =>
    cases r' with
    | stack => exact (h.stack.view_tokens (Option.some.inj (hv'.trans hv.symm))).symm
    | made n => exact absurd hid.symm (id_made_ne_stack a' line' n)
  | made n =>
    cases r' with
    | stack => exact absurd hid (id_made_ne_stack a line n)
    | made m =>
      cases hs : a.sources[n]? with
      | none => rw [view_made_none hs] at hv; cases hv
      | some s =>
        obtain ⟨s', hs', hf⟩ := h.sources hs
        rw [view_made_some hs] at hid hv hhost ⊢
        have hn : s.id n = .fresh n := id_eq_fresh hhost
        cases hm : a'.sources[m]? with
        | none => rw [view_made_none hm] at hv'; cases hv'
        | some s₂ =>
          rw [view_made_some hm] at hid hv' ⊢
          have hfresh : s₂.id m = .fresh n := hid.symm.trans hn
          have hm' : m = n := by
            cases s₂ with
            | static => exact SourceId.fresh.inj hfresh
            | function => exact SourceId.fresh.inj hfresh
            | host => cases hfresh
          subst hm'
          obtain rfl : s' = s₂ := Option.some.inj (hs'.symm.trans hm)
          exact hf.agrees m hhost v hid hv hv'

/-- All looks at sources that the requests of a run take. -/
def observed (a : Access) : List (Nat × Action) → List SourceView
  | [] => []
  | (line, action) :: rest => a.sees line action ++ (a.perform line action).1.observed rest

theorem seen_view {source : Option SourceRef} {x : SourceView} (h : x ∈ a.seen line source) :
    ∃ r, x = a.view line r := by
  unfold seen at h
  split at h
  next r _ => exact ⟨r, List.mem_singleton.mp h⟩
  next => cases h

theorem sees_view {x : SourceView} (h : x ∈ a.sees line action) : ∃ r, x = a.view line r := by
  cases action with
  | ownRestriction => exact seen_view h
  | inclusiveRestriction => exact seen_view h
  | filter => exact seen_view h
  | _ => cases h

theorem observed_view {acts : List (Nat × Action)} {x : SourceView} (h : x ∈ a.observed acts) :
    ∃ a' line r, Follows a a' ∧ x = Access.view a' line r := by
  induction acts generalizing a with
  | nil => cases h
  | cons step rest ih =>
    rcases List.mem_append.mp h with h | h
    · obtain ⟨r, hx⟩ := sees_view h
      exact ⟨a, step.1, r, .refl a, hx⟩
    · obtain ⟨a', line, r, hf, hx⟩ := ih h
      exact ⟨a', line, r, (follows_perform a step.1 step.2).trans hf, hx⟩

theorem observed_append (a : Access) (acts more : List (Nat × Action)) :
    a.observed (acts ++ more) = a.observed acts ++ (a.run acts).1.observed more := by
  induction acts generalizing a with
  | nil => rfl
  | cons step rest ih =>
    show a.sees step.1 step.2 ++ (a.perform step.1 step.2).1.observed (rest ++ more) = _
    rw [ih, ← List.append_assoc]
    rfl

end Access

/-! ### What is asked of the host -/

/-- Looks at sources whose lists are no longer than can be counted, where tables of the host with one
identity and one version hold the same tokens. -/
structure Faithful (views : List SourceView) : Prop where
  fits : ∀ x ∈ views, ∀ d, Fingerprint.FitsTokens (x.tokens d)
  host : ∀ x ∈ views, ∀ y ∈ views, ∀ u, x.id = .host u → x.Agrees y

theorem Faithful.of_subset {views views' : List SourceView} (h : Faithful views)
    (hs : ∀ x ∈ views', x ∈ views) : Faithful views' :=
  ⟨fun x hx => h.fits x (hs x hx), fun x hx y hy => h.host x (hs x hx) y (hs y hy)⟩

/-- The promise that some looks at sources make. -/
def promised (views : List SourceView) : Promise := fun id v =>
  match views.find? fun x => x.id = id ∧ x.version = some v with
  | some x => x.tokens
  | none => fun _ => []

/-- Versions of looks that agree stand for what they promise. -/
theorem honors_promised {views : List SourceView} (h : ∀ x ∈ views, ∀ y ∈ views, x.Agrees y) {x : SourceView}
    (hx : x ∈ views) : x.Honors (promised views) := by
  intro v hv
  unfold promised
  split
  next y hy =>
    have hsame : y.id = x.id ∧ y.version = some v := by simpa using List.find?_some hy
    exact h y (List.mem_of_find?_eq_some hy) x hx v hsame.1 hsame.2 hv
  next hnone =>
    have hno := List.find?_eq_none.mp hnone x hx
    simp [hv] at hno

/-- Looks that agree keep their own promise. -/
theorem keeps_promised {views : List SourceView} (h : ∀ x ∈ views, ∀ y ∈ views, x.Agrees y)
    (hfits : ∀ x ∈ views, ∀ d, Fingerprint.FitsTokens (x.tokens d)) {x : SourceView}
    (hx : x ∈ views) : x.Keeps (promised views) :=
  ⟨honors_promised h hx, hfits x hx⟩

/-- Tables of which none is the host's own keep what is asked if their entries can be counted. -/
theorem faithful_of_tables {tables : List (Nat × Source)}
    (hhost : ∀ x ∈ tables, x.2.id x.1 = .fresh x.1)
    (hfits : ∀ x ∈ tables, ∀ e ∈ x.2.table, Fingerprint.FitsTokens e.2) :
    Faithful (tables.map fun x => x.2.view x.1) := by
  constructor
  · intro view hview d
    obtain ⟨x, hx, rfl⟩ := List.mem_map.mp hview
    show Fingerprint.FitsTokens (x.2.table.tokens d)
    rcases x.2.table.tokens_cases d with h | ⟨e, he, h⟩
    · rw [h]
      exact ⟨by decide, fun t ht => by cases ht⟩
    · rw [h]
      exact hfits x hx e he
  · intro view hview _ _ u hu
    obtain ⟨x, hx, rfl⟩ := List.mem_map.mp hview
    cases (hhost x hx).symm.trans hu

namespace Access

variable {a : Access}

/-- A look at a source that the host did not choose the identity of agrees with all looks of a run. -/
theorem agrees_of_observed {acts : List (Nat × Action)} {x y : SourceView} (hx : x ∈ a.observed acts)
    (hy : y ∈ a.observed acts) (hhost : ∀ u, x.id ≠ .host u) : x.Agrees y := by
  induction acts generalizing a with
  | nil => cases hx
  | cons step rest ih =>
    rcases List.mem_append.mp hx with hx' | hx'
    · obtain ⟨r, rfl⟩ := sees_view hx'
      obtain ⟨a', line', r', hf, rfl⟩ := observed_view hy
      exact hf.agrees hhost
    · rcases List.mem_append.mp hy with hy' | hy'
      · -- The other look was the earlier one.
        intro v hid
        obtain ⟨r, rfl⟩ := sees_view hy'
        obtain ⟨a', line', r', hf, rfl⟩ := observed_view hx
        exact (hf.agrees fun u hu => hhost u (hid.trans hu)).symm v hid
      · exact ih hx' hy'

/-- With a faithful host, all looks of a run agree: no version ever stands for two tables. -/
theorem observed_agree {acts : List (Nat × Action)} (h : Faithful (a.observed acts)) :
    ∀ x ∈ a.observed acts, ∀ y ∈ a.observed acts, x.Agrees y := by
  intro x hx y hy
  by_cases hhost : ∃ u, x.id = .host u
  · obtain ⟨u, hu⟩ := hhost
    exact h.host x hx y hy u hu
  · exact agrees_of_observed hx hy fun u hu => hhost ⟨u, hu⟩

/-- The looks of a run at faithful sources keep a promise. -/
theorem exists_promise {acts : List (Nat × Action)} (h : Faithful (a.observed acts)) :
    ∃ promise : Promise, ∀ x ∈ a.observed acts, x.Keeps promise :=
  ⟨promised (a.observed acts), fun _ hx => keeps_promised (observed_agree h) h.fits hx⟩

end Access

end RowAccess
