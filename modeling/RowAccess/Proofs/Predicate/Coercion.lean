import Mathlib.Data.List.Basic
import Mathlib.Tactic.Common
import RowAccess.Proofs.Predicate.Meaning
import RowAccess.Proofs.Registry.Fresh

/-!
# Faults of token values

The one fault that held tokens can come to is that the value of a token is none of the field's kind. Every kind that
can be classified has reasons of its own for that; the reason that a kind cannot carry a classification is given for
the other kinds alone.
-/

namespace RowAccess

/-! ### Reasons -/

/-- The reason of the kinds that cannot be classified. -/
def Kind.unclassifiableReason : String := "kind cannot carry a classification"

theorem Text.head_append {s t : String} {c : Char} (h : s.toList.head? = some c) :
    (s ++ t).toList.head? = some c := by
  rw [String.toList_append, List.head?_append, h]
  rfl

/-- A text that begins with another letter is not that reason. -/
theorem Kind.ne_unclassifiableReason {s : String} {c : Char} (h : s.toList.head? = some c) (hc : c ≠ 'k') :
    s ≠ unclassifiableReason := by
  rintro rfl
  exact hc (Option.some.inj h).symm

open Text (head_append)
open Kind (ne_unclassifiableReason)

theorem Number.Whole.Fault.reason_ne (f : Number.Whole.Fault) : f.reason ≠ Kind.unclassifiableReason := by
  cases f with
  | empty => exact ne_unclassifiableReason (c := 'c') rfl (by decide)
  | invalidDigit => exact ne_unclassifiableReason (c := 'i') rfl (by decide)
  | tooLarge => exact ne_unclassifiableReason (c := 'n') rfl (by decide)
  | tooSmall => exact ne_unclassifiableReason (c := 'n') rfl (by decide)

theorem Number.Binary64.Fault.reason_ne (f : Number.Binary64.Fault) : f.reason ≠ Kind.unclassifiableReason := by
  cases f with
  | empty => exact ne_unclassifiableReason (c := 'c') rfl (by decide)
  | invalid => exact ne_unclassifiableReason (c := 'i') rfl (by decide)

theorem Number.Decimal.Fault.reason_ne (f : Number.Decimal.Fault) : f.reason ≠ Kind.unclassifiableReason := by
  cases f with
  | exponentTooLarge e =>
    exact ne_unclassifiableReason (head_append (head_append (head_append rfl))) (c := 'S') (by decide)
  | exponentOverflow => exact ne_unclassifiableReason (c := 'N') rfl (by decide)
  | exponentInvalid => exact ne_unclassifiableReason (c := 'F') rfl (by decide)
  | _ => exact ne_unclassifiableReason (c := 'I') rfl (by decide)

theorem Uuid.Fault.reason_ne (f : Uuid.Fault) : f.reason ≠ Kind.unclassifiableReason := by
  have hhead : f.reason.toList.head? = some 'i' := by
    cases f with
    | length found => exact head_append rfl
    | character found place => exact head_append (head_append (head_append rfl))
    | groupCount found => exact head_append rfl
    | groupLength group expected found =>
      exact head_append (head_append (head_append (head_append (head_append rfl))))
  exact ne_unclassifiableReason hhead (by decide)

theorem reason_of_mapError {α β δ : Type} {result : Except δ α} {reason : δ → String} {g : α → β} {text : String}
    (h : (result.mapError reason).map g = .error text) : ∃ f, reason f = text := by
  cases result with
  | error f => exact ⟨f, Except.error.inj h⟩
  | ok x => cases h

/-- A value is refused because its kind cannot carry a classification exactly if that is so. -/
theorem Kind.read?_unclassifiable {k : Kind} {token : String} :
    k.read? token = .error unclassifiableReason ↔ k.isClassifiable = false := by
  constructor
  · intro h
    cases k with
    | text => cases h
    | whole w =>
      obtain ⟨f, hf⟩ := reason_of_mapError h
      exact absurd hf f.reason_ne
    | bool =>
      unfold Kind.read? at h
      dsimp only at h
      split at h
      · cases h
      · exact absurd (Except.error.inj h) (by decide)
    | dateTime =>
      unfold Kind.read? at h
      dsimp only at h
      split at h
      · cases h
      · exact absurd (Except.error.inj h) (by decide)
    | binary64 =>
      obtain ⟨f, hf⟩ := reason_of_mapError h
      exact absurd hf f.reason_ne
    | decimal =>
      obtain ⟨f, hf⟩ := reason_of_mapError h
      exact absurd hf f.reason_ne
    | uuid =>
      obtain ⟨f, hf⟩ := reason_of_mapError h
      exact absurd hf f.reason_ne
    | binary => rfl
    | composite => rfl
  · intro h
    cases k with
    | binary => rfl
    | composite => rfl
    | whole w => cases w <;> cases h
    | _ => cases h

/-! ### Faults -/

/-- A token whose value is none of a field's kind, and not because the kind cannot carry a classification. -/
def Fault.isRefusedToken (f : Fault) : Prop :=
  ∃ field kind token reason, f = .valueCoercion field kind token reason ∧ reason ≠ Kind.unclassifiableReason

theorem Kind.coerce_eq_error {k : Kind} {field token : String} {f : Fault} :
    k.coerce field token = .error f ↔
      ∃ reason, k.read? token = .error reason ∧ f = .valueCoercion field k.name token reason := by
  unfold coerce
  cases k.read? token with
  | error reason =>
    refine ⟨fun h => ⟨reason, rfl, (Except.error.inj h).symm⟩, ?_⟩
    rintro ⟨_, hr, rfl⟩
    obtain rfl := Except.error.inj hr
    rfl
  | ok v => exact ⟨nofun, fun ⟨_, hr, _⟩ => nomatch hr⟩

theorem Predicate.isRefusedToken_of_ofTokens? {path : FieldPath} {kind : Kind} {held : List String} {f : Fault}
    (hkind : kind.isClassifiable = true) (h : ofTokens? path kind held = .error f) : f.isRefusedToken := by
  obtain ⟨t, -, ht⟩ := List.exists_of_findSome?_eq_some (ofTokens?_eq_error.mp h).2
  unfold Token.fault? at ht
  obtain ⟨text, -, ht⟩ := Option.bind_eq_some_iff.mp ht
  cases hc : kind.coerce path.display text with
  | ok v =>
    rw [hc] at ht
    cases ht
  | error g =>
    rw [hc] at ht
    obtain rfl := Option.some.inj ht
    obtain ⟨reason, hread, rfl⟩ := Kind.coerce_eq_error.mp hc
    refine ⟨_, _, _, _, rfl, ?_⟩
    rintro rfl
    cases hkind.symm.trans (Kind.read?_unclassifiable.mp hread)

/-- What classified fields cannot demand is told by a token of one of them. -/
theorem Facts.isRefusedToken_of_demand {tokens : String → List String} {f : Fault} {classified : List Classified}
    (hkinds : ∀ c ∈ classified, c.kind.isClassifiable = true) (h : demand tokens classified = .error f) :
    f.isRefusedToken := by
  unfold demand at h
  generalize (none : Option Predicate) = start at h
  induction classified generalizing start with
  | nil => cases h
  | cons c rest ih =>
    rw [List.foldlM_cons] at h
    cases hp : Predicate.ofTokens? (.own c.field) c.kind (tokens c.dimension) with
    | error g =>
      rw [hp] at h
      obtain rfl := Except.error.inj h
      exact Predicate.isRefusedToken_of_ofTokens? (hkinds c List.mem_cons_self) hp
    | ok p =>
      rw [hp] at h
      exact ih (fun c hc => hkinds c (List.mem_cons_of_mem _ hc)) _ h

end RowAccess
