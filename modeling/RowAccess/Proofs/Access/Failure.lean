import Mathlib.Data.List.Basic
import Mathlib.Tactic.Common
import RowAccess.Proofs.Access.Configuration
import RowAccess.Proofs.Registry.Succession

/-!
# What a configuration leaves when it fails

A configuration is checked, then gives the root its name and its tokens, then its patterns, all or none of them, and
then classifies its fields one after another. So the fault tells how far it came: one of the check leaves everything as
it was, one of a pattern leaves the root without the patterns, and one of a field leaves all but the fields from the
one that was refused on. No scope but the root is ever changed.
-/

namespace RowAccess

theorem Config.fault_of_check {c : Config} {f : Fault} (h : c.check = .error f) : ∃ message, f = .config message := by
  unfold check at h
  dsimp only at h
  repeat' split at h
  all_goals cases h
  all_goals exact ⟨_, rfl⟩

/-- The root as a configuration leaves it when a pattern is refused: with the name and the clearances that it would
have had, and with the patterns that it had. -/
structure Config.Halted (c : Config) (s s' : Scope) : Prop where
  accessor : s'.accessor = (c.onRoot s).accessor
  clearances : s'.clearances = (c.onRoot s).clearances
  granted : s'.granted = s.granted
  denied : s'.denied = s.denied

theorem Config.halted (c : Config) (s : Scope) :
    c.Halted s ((s.named c.accessor).cleared c.clearances.entries) := by
  obtain ⟨revision, hcleared⟩ := Scope.cleared_eq c.clearances.entries (s.named c.accessor)
  refine ⟨rfl, rfl, ?_, ?_⟩
  · rw [hcleared]
    rfl
  · rw [hcleared]
    rfl

namespace Access

variable {a : Access} {c : Config} {f : Fault}

/-- How far a configuration comes: not beyond its check, to its patterns, to one of its fields, or to its end. -/
inductive Comes (a : Access) (c : Config) : Access × Except Fault Unit → Prop
  | unchecked (message : String) : Comes a c (a, .error (.config message))
  | unread (pattern reason : String) :
      Comes a c ({ a with stack := a.cleared c }, .error (.malformedSelector pattern reason))
  | refused {r : Registry} {f : Fault} (h : classifyAll a.registry c.classifications = (r, .error f)) :
      Comes a c ({ a with stack := a.granted c, registry := r }, .error f)
  | applied {r : Registry} (h : classifyAll a.registry c.classifications = (r, .ok ())) :
      Comes a c ({ a with stack := a.granted c, registry := r }, .ok ())

theorem comes_configure (a : Access) (c : Config) : Comes a c (a.configure c) := by
  rw [configure_eq_configured]
  cases hcheck : c.check with
  | error f =>
    obtain ⟨message, rfl⟩ := Config.fault_of_check hcheck
    exact .unchecked message
  | ok _ =>
    show Comes a c (a.configured c)
    rw [configured_eq]
    cases hread : (Scope.patternsOf c.permissions).findSome? a.stack.matcher.fault? with
    | some f =>
      obtain ⟨pattern, -, hfault⟩ := List.exists_of_findSome?_eq_some hread
      obtain ⟨reason, -, rfl⟩ := Option.map_eq_some_iff.mp hfault
      exact .unread pattern reason
    | none =>
      cases hall : classifyAll a.registry c.classifications with
      | mk r result =>
        cases result with
        | error f => exact .refused hall
        | ok _ => exact .applied hall

/-- A configuration changes no scope but the root, and no place or source. -/
theorem configure_frame (a : Access) (c : Config) :
    (∀ n, n ≠ Scope.rootSerial → (a.configure c).1.stack.scope? n = a.stack.scope? n) ∧
      (a.configure c).1.stack.entered = a.stack.entered ∧ (a.configure c).1.stack.left = a.stack.left ∧
      (a.configure c).1.sources = a.sources ∧ (a.configure c).1.places = a.places := by
  obtain ⟨t, r, hchanges, -, heq⟩ := a.configure_eq c
  obtain ⟨-, -, hentered, hleft⟩ := hchanges.frame
  rw [heq]
  exact ⟨fun n hn => hchanges.scope?_of_ne hn, hentered, hleft, rfl, rfl⟩

/-- Patterns that are refused leave the root with its name and its tokens. -/
theorem halted_cleared (c : Config) {s : Scope} (hs : a.stack.scope? Scope.rootSerial = some s) :
    ∃ s', (a.cleared c).scope? Scope.rootSerial = some s' ∧ c.Halted s s' := by
  refine ⟨_, ?_, c.halted s⟩
  unfold ScopeStack.scope? at hs ⊢
  rw [scopes_cleared, List.getElem?_modify_eq, hs]
  rfl

theorem scope?_granted (a : Access) (c : Config) :
    (a.granted c).scope? Scope.rootSerial = (a.stack.scope? Scope.rootSerial).map c.onRoot := by
  unfold ScopeStack.scope?
  rw [scopes_granted, List.getElem?_modify_eq]
  rfl

/-- What a configuration leaves when it fails, in any state. A fault of its check leaves the state as it was. A pattern
that is refused leaves the root with the name and the clearances that it has when all goes well, with the patterns that
it had, and with the registry as it was. A field that is refused leaves the root as it is when all goes well, and the
fields before it classified, those and no others: the types have the fields that they had, and those behind them. There
are no other faults; and in no case is a scope other than the root changed. -/
theorem configure_failed (a : Access) (c : Config) :
    let out := a.configure c
    let b := out.1
    let root := Scope.rootSerial
    ((∀ n, n ≠ root → b.stack.scope? n = a.stack.scope? n) ∧
      b.stack.entered = a.stack.entered ∧ b.stack.left = a.stack.left ∧ b.sources = a.sources ∧ b.places = a.places) ∧
    (∀ message, out.2 = .error (.config message) → b = a) ∧
    (∀ pattern reason, out.2 = .error (.malformedSelector pattern reason) → b.registry = a.registry ∧
      ∀ s, a.stack.scope? root = some s → ∃ s', b.stack.scope? root = some s' ∧ c.Halted s s') ∧
    (∀ f, out.2 = .error f → f.isRegistration = true →
      b.stack.scope? root = (a.stack.scope? root).map c.onRoot ∧
      ∃ i k r, c.classifications[i]? = some k ∧ classifyAll a.registry (c.classifications.take i) = (r, .ok ()) ∧
        r.classify k.entity k.field k.dimension = (b.registry, .error f) ∧
        a.registry.Registered b.registry (c.classifications.take i) (c.classifications.take (i + 1)) ∧
        b.registry.classify k.entity k.field k.dimension = (b.registry, .error f)) ∧
    (∀ f, out.2 = .error f → (∃ message, f = .config message) ∨
      (∃ pattern reason, f = .malformedSelector pattern reason) ∨ f.isRegistration = true) ∧
    (out.2 = .ok () → b.stack.scope? root = (a.stack.scope? root).map c.onRoot ∧
      a.registry.Registered b.registry c.classifications c.classifications) := by
  intro out b root
  refine ⟨a.configure_frame c, ?_⟩
  have hcomes : Comes a c out := a.comes_configure c
  have hroot := a.scope?_granted c
  obtain ⟨b', result⟩ := out
  -- Each clause is about one of the four ends, and the fault tells which one it was.
  cases hcomes with
  | unchecked message =>
    refine ⟨fun _ _ => rfl, nofun, ?_, ?_, nofun⟩
    · rintro _ ⟨⟩ ⟨⟩
    · rintro _ ⟨⟩
      exact .inl ⟨message, rfl⟩
  | unread pattern reason =>
    refine ⟨nofun, fun _ _ _ => ⟨rfl, fun s hs => halted_cleared c hs⟩, ?_, ?_, nofun⟩
    · rintro _ ⟨⟩ ⟨⟩
    · rintro _ ⟨⟩
      exact .inr (.inl ⟨pattern, reason, rfl⟩)
  | refused h =>
    obtain ⟨hfault, hfields⟩ := Registry.registered_of_error h
    refine ⟨?_, ?_, ?_, ?_, nofun⟩
    · rintro _ ⟨⟩
      cases hfault
    · rintro _ _ ⟨⟩
      cases hfault
    · rintro _ ⟨⟩ -
      exact ⟨hroot, hfields⟩
    · rintro _ ⟨⟩
      exact .inr (.inr hfault)
  | applied h => exact ⟨nofun, nofun, nofun, nofun, fun _ => ⟨hroot, Registry.registered_classifyAll h⟩⟩

/-- Orders and the invoices for them. -/
def ledger : Catalog :=
  [⟨"orders", [⟨"region", .text, "orders", none⟩], []⟩, ⟨"invoices", [⟨"office", .text, "invoices", none⟩], []⟩]

/-- A configuration with a field that there is not, between two others. -/
def misspelt : Config :=
  ⟨some "desk", none, .ofList [("region", "EU, US")], ["read-*"],
    [⟨"orders", "region", "region"⟩, ⟨"invoices", "ofice", "office"⟩, ⟨"invoices", "office", "office"⟩]⟩

theorem configure_failed_misspelt :
    let a := separate ledger .glob
    let blank : Config := { misspelt with accessor := some " " }
    let unread : Config := { misspelt with permissions := ["read-*", "write-["] }
    (a.configure blank).1 = a ∧
    ((a.configure unread).1.registry = a.registry ∧
      ∃ s', (a.configure unread).1.stack.scope? 0 = some s' ∧ unread.Halted .root s') ∧
    (a.configure misspelt).1.stack.scope? 0 = some (misspelt.onRoot .root) ∧
    ∃ i k r, misspelt.classifications[i]? = some k ∧
      classifyAll a.registry (misspelt.classifications.take i) = (r, .ok ()) ∧
      a.registry.Registered (a.configure misspelt).1.registry (misspelt.classifications.take i)
        (misspelt.classifications.take (i + 1)) := by
  intro a blank unread
  obtain ⟨-, hblank, -⟩ := configure_failed a blank
  obtain ⟨-, -, hunread, -⟩ := configure_failed a unread
  obtain ⟨-, -, -, hmisspelt, -⟩ := configure_failed a misspelt
  obtain ⟨hregistry, hroot⟩ := hunread "write-[" "Pattern syntax error near position 6: invalid range pattern"
    (by decide +kernel)
  obtain ⟨hroot', i, k, r, hk, hbefore, -, hregistered, -⟩ :=
    hmisspelt (.unknownField "invoices" "ofice") (by decide +kernel) rfl
  exact ⟨hblank "accessor must not be empty" (by decide +kernel), ⟨hregistry, hroot .root rfl⟩, hroot', i, k, r, hk,
    hbefore, hregistered⟩

end Access

end RowAccess
