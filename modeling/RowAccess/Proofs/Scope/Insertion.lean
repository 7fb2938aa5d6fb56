import Mathlib.Data.List.Basic
import Mathlib.Tactic.Common
import RowAccess.Proofs.Scope.Change

/-!
# Insertions of patterns

Permission tokens are granted patterns and denied ones. Patterns are given to a scope together: the first of them
that the matcher refuses, the granted ones before the denied ones, refuses them all; otherwise each list of the scope
is continued by the patterns that it does not have yet.
-/

namespace RowAccess

namespace Matcher

variable {m : Matcher} {p : String}

/-- Whether a text is refused as a pattern. -/
def refuses (m : Matcher) (p : String) : Bool := (m.objection? p).isSome

theorem fault?_eq_none : m.fault? p = none ↔ m.objection? p = none := Option.map_eq_none_iff

/-- The first fault of texts is that of the first text that is refused. -/
theorem findSome?_fault (m : Matcher) (texts : List String) :
    texts.findSome? m.fault? = (texts.find? m.refuses).bind m.fault? := by
  induction texts with
  | nil => rfl
  | cons p rest ih =>
    rw [List.findSome?_cons, List.find?_cons, ih]
    unfold refuses fault?
    cases h : m.objection? p with
    | none => rfl
    | some reason => simp [h]

/-- A text to which there is no objection is read, and matches what it is read as. -/
theorem test?_of_objection? (h : m.objection? p = none) :
    ∃ accepts, m.test? p = .ok accepts ∧ ∀ name, m.isMatch p name = accepts name := by
  unfold objection? at h
  unfold isMatch
  split at h
  · cases h
  · cases ht : m.test? p with
    | error reason => rw [ht] at h; cases h
    | ok accepts => exact ⟨accepts, rfl, fun _ => rfl⟩

end Matcher

namespace Scope

/-- The pattern that a permission token denies, if it denies one. -/
def deniedPattern? (token : String) : Option String :=
  match token.toList with
  | '!' :: rest => some (String.ofList rest)
  | _ => none

/-- Each token is granted as it stands, or denied without its mark. Both sides keep the order. -/
theorem splitPermissions_eq (tokens : List String) :
    splitPermissions tokens =
      (tokens.filter fun token => (deniedPattern? token).isNone, tokens.filterMap deniedPattern?) := by
  induction tokens with
  | nil => rfl
  | cons token rest ih =>
    have hcons : splitPermissions (token :: rest) =
        match token.toList with
        | '!' :: text => ((splitPermissions rest).1, String.ofList text :: (splitPermissions rest).2)
        | _ => (token :: (splitPermissions rest).1, (splitPermissions rest).2) := rfl
    rw [hcons, ih, List.filter_cons, List.filterMap_cons]
    unfold deniedPattern?
    split <;> rfl

/-- Patterns are refused for the first that the matcher refuses, or all of them come behind those that the scope
has. -/
theorem addPermissions_cases (s : Scope) (m : Matcher) (granted denied : List String) :
    (∃ p reason, (granted ++ denied).find? m.refuses = some p ∧ m.objection? p = some reason ∧
      s.addPermissions m granted denied = .error (.malformedSelector p reason)) ∨
    ((granted ++ denied).find? m.refuses = none ∧
      ∃ revision, s.revision ≤ revision ∧ s.addPermissions m granted denied = .ok { s with
        granted := s.granted ++ (granted.removeAll s.granted).eraseDups
        denied := s.denied ++ (denied.removeAll s.denied).eraseDups
        revision }) := by
  cases hadd : s.addPermissions m granted denied with
  | error f =>
    refine .inl ?_
    have hfault := addPermissions_eq_error hadd
    rw [Matcher.findSome?_fault] at hfault
    obtain ⟨p, hfirst, hp⟩ := Option.bind_eq_some_iff.mp hfault
    obtain ⟨reason, hreason, rfl⟩ := Option.map_eq_some_iff.mp hp
    exact ⟨p, reason, hfirst, hreason, rfl⟩
  | ok s' =>
    obtain ⟨hread, revision, hle, rfl⟩ := addPermissions_eq_ok hadd
    have hnone : ∀ p ∈ granted ++ denied, ¬ m.refuses p = true := by
      intro p hp
      rw [Matcher.refuses, Matcher.fault?_eq_none.mp (List.findSome?_eq_none_iff.mp hread p hp)]
      exact Bool.noConfusion
    refine .inr ⟨List.find?_eq_none.mpr hnone, revision, hle, ?_⟩
    rw [TokenTable.foldl_withToken, TokenTable.foldl_withToken]

end Scope

end RowAccess
