import Mathlib.Data.List.Basic
import Mathlib.Tactic.Common
import RowAccess.Proofs.Access.Version
import RowAccess.Proofs.Registry.Since

/-!
# Consultations of a run

The requests of a run consult builders, each with what its line sees of its source. A registry goes a course
over a run that comes with just these consultations.
-/

namespace RowAccess

/-- Classifying fields consults no builder. -/
theorem Registry.Classifies.course {r r' : Registry} (h : r.Classifies r') : Registry.Course r [] r' := by
  induction h with
  | refl => exact .refl
  | classify _ entity field dimension ih => exact ih.trans (Registry.course_classify _ entity field dimension)

namespace Access

open Registry (Course)

variable {a : Access} {line : Nat} {action : Action} {source : Option SourceRef} {k : Consultation}

/-- What an action consults. -/
def consultations (a : Access) (line : Nat) : Action → List Consultation
  | .ownRestriction source entity =>
      (a.seen line source).flatMap fun view => a.registry.ownConsultations view entity
  | .inclusiveRestriction source entity =>
      (a.seen line source).flatMap fun view => a.registry.inclusiveConsultations view entity
  | .filter source entity _ =>
      (a.seen line source).flatMap fun view => a.registry.inclusiveConsultations view entity
  | _ => []

/-- What a run consults. -/
def consulted (a : Access) : List (Nat × Action) → List Consultation
  | [] => []
  | (line, action) :: rest => a.consultations line action ++ (a.perform line action).1.consulted rest

/-- What a consultation saw is what its action saw. -/
theorem view_mem_sees (h : k ∈ a.consultations line action) : k.view ∈ a.sees line action := by
  cases action with
  | ownRestriction source entity =>
    obtain ⟨view, hview, hk⟩ := List.mem_flatMap.mp h
    rwa [Registry.view_of_mem_ownConsultations hk]
  | inclusiveRestriction source entity =>
    obtain ⟨view, hview, hk⟩ := List.mem_flatMap.mp h
    rwa [Registry.view_of_mem_consultations _ _ _ k hk]
  | filter source entity _ =>
    obtain ⟨view, hview, hk⟩ := List.mem_flatMap.mp h
    rwa [Registry.view_of_mem_consultations _ _ _ k hk]
  | _ => cases h

theorem view_mem_observed {acts : List (Nat × Action)} (h : k ∈ a.consulted acts) :
    k.view ∈ a.observed acts := by
  induction acts generalizing a with
  | nil => cases h
  | cons step rest ih =>
    rcases List.mem_append.mp h with h | h
    · exact List.mem_append_left _ (view_mem_sees h)
    · exact List.mem_append_right _ (ih h)

/-! ### Courses -/

theorem course_request (a : Access) (line : Nat) (source : Option SourceRef)
    (ask : Registry → SourceView → Registry × Except Fault Restriction)
    (log : SourceView → List Consultation)
    (hask : ∀ view, Course a.registry (log view) (ask a.registry view).1) :
    Course a.registry ((a.seen line source).flatMap log) (a.request line source ask).1.registry := by
  unfold seen request
  cases a.sourceOr source with
  | error f => exact .refl
  | ok s =>
    dsimp only
    rw [List.flatMap_singleton]
    exact hask (a.view line s)

/-- An action that is no request consults nothing. -/
theorem RegistryStep.course {r : Registry} (h : RegistryStep a line action r) (hsees : a.sees line action = []) :
    Course a.registry [] r := by
  cases h with
  | classified hr => exact hr.course
  | registered s => exact Registry.Shift.course (.kept rfl (Nat.le_refl _))
  | got entity => exact Registry.course_get _ entity
  | switched s => exact Registry.Shift.course (.kept rfl (Nat.le_refl _))
  | own hview => exact (List.not_mem_nil (hsees ▸ hview)).elim
  | inclusive hview => exact (List.not_mem_nil (hsees ▸ hview)).elim

theorem course_perform (a : Access) (line : Nat) (action : Action) :
    Course a.registry (a.consultations line action) (a.perform line action).1.registry := by
  have hstep := perform_registry a line action
  cases action with
  | ownRestriction source entity =>
    exact course_request a line source (fun r view => r.ownRestriction view entity) _
      fun view => Registry.course_ownRestriction _ view entity
  | inclusiveRestriction source entity =>
    exact course_request a line source (fun r view => r.inclusiveRestriction view entity) _
      fun view => Registry.course_inclusiveRestriction _ view entity
  | filter source entity _ =>
    exact course_request a line source (fun r view => r.inclusiveRestriction view entity) _
      fun view => Registry.course_inclusiveRestriction _ view entity
  | _ => exact hstep.course rfl

theorem course_run (a : Access) (acts : List (Nat × Action)) :
    Course a.registry (a.consulted acts) (a.run acts).1.registry := by
  induction acts generalizing a with
  | nil => exact .refl
  | cons step rest ih => exact (course_perform a step.1 step.2).trans (ih _)

/-! ### One source -/

/-- What is looked at of one source keeps a promise where its looks are faithful, whatever other sources do. -/
theorem exists_promise_of {acts : List (Nat × Action)} (id : SourceId)
    (h : Faithful ((a.observed acts).filter fun x => x.id = id)) :
    ∃ promise : Promise, ∀ x ∈ a.observed acts, x.id = id → x.Keeps promise := by
  have hagree : ∀ x ∈ (a.observed acts).filter fun x => x.id = id,
      ∀ y ∈ (a.observed acts).filter fun x => x.id = id, x.Agrees y := by
    intro x hx y hy
    by_cases hhost : ∃ u, x.id = .host u
    · obtain ⟨u, hu⟩ := hhost
      exact h.host x hx y hy u hu
    · exact agrees_of_observed (List.mem_filter.mp hx).1 (List.mem_filter.mp hy).1
        fun u hu => hhost ⟨u, hu⟩
  exact ⟨_, fun x hx hid => keeps_promised hagree h.fits (List.mem_filter.mpr ⟨hx, by simp [hid]⟩)⟩

/-- The versions of a source that the host did not choose the identity of stand for its tokens over a whole run,
whatever other sources do. -/
theorem exists_honored (a : Access) (acts : List (Nat × Action)) (id : SourceId)
    (hhost : ∀ u, id ≠ .host u) :
    ∃ promise : Promise, ∀ x ∈ a.observed acts, x.id = id → x.Honors promise := by
  have hagree : ∀ x ∈ (a.observed acts).filter fun x => x.id = id,
      ∀ y ∈ (a.observed acts).filter fun x => x.id = id, x.Agrees y := by
    intro x hx y hy
    obtain ⟨hx, hid⟩ := List.mem_filter.mp hx
    rw [decide_eq_true_eq] at hid
    exact agrees_of_observed hx (List.mem_filter.mp hy).1 fun u hu => hhost u (hid.symm.trans hu)
  exact ⟨_, fun x hx hid => honors_promised hagree (List.mem_filter.mpr ⟨hx, by simp [hid]⟩)⟩

end Access

end RowAccess
