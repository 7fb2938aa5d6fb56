import Mathlib.Data.List.Basic
import Mathlib.Tactic.Common
import RowAccess.Registry

/-!
# Which builders a request consults

A request consults a builder when it asks for the restriction of its own fields under the tokens of the
source. It does so for the type that it is about, and then along the edges for all types on its way, up to the
first that fails. The lists of consultations here follow the definitions of the requests.
-/

namespace RowAccess

open RowAccess.Builder (Resolved)

/-- A type whose builder was consulted, what was seen of the source then, and whether the builder had an
answer. -/
structure Consultation where
  entity : String
  view : SourceView
  succeeded : Bool

/-- What consultations of a type saw of sources, in order. -/
def looksAt (log : List Consultation) (entity : String) : List SourceView :=
  (log.filter fun k => k.entity = entity).map Consultation.view

theorem looksAt_append (log more : List Consultation) (entity : String) :
    looksAt (log ++ more) entity = looksAt log entity ++ looksAt more entity := by
  simp [looksAt]

theorem mem_looksAt {log : List Consultation} {entity : String} {look : SourceView} :
    look ∈ looksAt log entity ↔ ∃ k ∈ log, k.entity = entity ∧ k.view = look := by
  simp [looksAt, and_assoc]

namespace Registry

/-! ### The lists -/

/-- A consultation of a builder. -/
def consultation (r : Registry) (view : SourceView) (b : Builder) : Consultation :=
  ⟨b.entity, view, (r.resolveOwn view b).2.isOk⟩

/-- What a request for own fields consults. -/
def ownConsultations (r : Registry) (view : SourceView) (entity : String) : List Consultation :=
  match r.get entity with
  | (_, .error _) => []
  | (r, .ok b) => [r.consultation view b]

/-- What visits of the types consult that edges lead to. -/
def parentConsultations (visit : Traversal → String → Traversal × Except Fault Resolved)
    (log : Traversal → String → List Consultation) : Traversal → List Edge → List Consultation
  | _, [] => []
  | t, e :: rest =>
      if t.visiting.contains e.target then parentConsultations visit log t rest
      else
        log t e.target ++
          match visit t e.target with
          | (_, .error _) => []
          | (t, .ok _) => parentConsultations visit log t rest

/-- What is consulted for a builder whose type is being visited. -/
def composeConsultations (visit : Traversal → String → Traversal × Except Fault Resolved)
    (log : Traversal → String → List Consultation) (view : SourceView) (t : Traversal) (b : Builder) :
    List Consultation :=
  t.registry.consultation view b ::
    match t.registry.resolveOwn view b with
    | (_, .error _) => []
    | (r, .ok _) => parentConsultations visit log { t with registry := r } b.schema.edges

/-- What a visit of a type consults. -/
def consultations (view : SourceView) : Nat → Traversal → String → List Consultation
  | 0, _, _ => []
  | fuel + 1, t, entity =>
      match t.registry.get entity with
      | (_, .error _) => []
      | (r, .ok b) =>
          composeConsultations (resolve view fuel) (consultations view fuel) view
            ⟨r, t.visiting ++ [entity]⟩ b

/-- What a request for a type and its ancestors consults. -/
def inclusiveConsultations (r : Registry) (view : SourceView) (entity : String) : List Consultation :=
  consultations view (r.typeBound + 1) ⟨r, []⟩ entity

/-! ### One look for a whole request -/

theorem view_of_mem_ownConsultations {r : Registry} {view : SourceView} {entity : String} {k : Consultation}
    (h : k ∈ r.ownConsultations view entity) : k.view = view := by
  unfold ownConsultations at h
  split at h
  · cases h
  · rw [List.mem_singleton.mp h]
    rfl

variable {visit : Traversal → String → Traversal × Except Fault Resolved}
  {log : Traversal → String → List Consultation} {view : SourceView} {k : Consultation}

theorem view_of_mem_parents (hlog : ∀ t entity, ∀ k ∈ log t entity, k.view = view) :
    ∀ (edges : List Edge) (t : Traversal), k ∈ parentConsultations visit log t edges → k.view = view
  | [], _, h => by cases h
  | e :: rest, t, h => by
      unfold parentConsultations at h
      split at h
      · exact view_of_mem_parents hlog rest t h
      · rcases List.mem_append.mp h with h | h
        · exact hlog t e.target k h
        · split at h
          · cases h
          · exact view_of_mem_parents hlog rest _ h

/-- All consultations of a visit see the same. -/
theorem view_of_mem_consultations :
    ∀ (fuel : Nat) (t : Traversal) (entity : String), ∀ k ∈ consultations view fuel t entity, k.view = view
  | 0, _, _, _, h => by cases h
  | fuel + 1, t, entity, k, h => by
      unfold consultations at h
      split at h
      · cases h
      · rcases List.mem_cons.mp h with rfl | h
        · rfl
        · split at h
          · cases h
          · exact view_of_mem_parents (view_of_mem_consultations fuel) _ _ h

end Registry

end RowAccess
