import Mathlib.Data.List.Basic
import Mathlib.Tactic.Common
import RowAccess.Proofs.Access.Configuration

/-!
# Configurations over one another, applied

A configuration can be applied with another one laid over it if and only if the two can be applied one after the other.
-/

namespace RowAccess

namespace Access

variable {x : Access} {a b : Config}

theorem takes_overlay (ha : a.Worded) (hb : b.Worded) :
    x.Takes (a.overlay b) ↔ x.Takes a ∧ (x.configure a).1.Takes b := by
  constructor
  · rintro ⟨-, hread, hclassified⟩
    obtain ⟨hfirst, hsecond⟩ := classifyAll_append_eq_ok.mp hclassified
    have htakes : x.Takes a := ⟨ha, fun p hp => hread p (Scope.mem_patternsOf_append.mpr (.inl hp)), hfirst⟩
    refine ⟨htakes, hb, fun p hp => ?_, ?_⟩
    · rw [htakes.took.matcher]
      exact hread p (Scope.mem_patternsOf_append.mpr (.inr hp))
    · rw [htakes.took.registry]
      exact hsecond
  · rintro ⟨hfirst, hsecond⟩
    refine ⟨ha.overlay hb, fun p hp => ?_, classifyAll_append_eq_ok.mpr ⟨hfirst.classified, ?_⟩⟩
    · rcases Scope.mem_patternsOf_append.mp hp with hp | hp
      · exact hfirst.readable p hp
      · rw [← hfirst.took.matcher]
        exact hsecond.readable p hp
    · rw [← hfirst.took.registry]
      exact hsecond.classified

/-- Stacks whose roots have the same contents, and whose other scopes are the same. -/
structure SameAtRoot (t t' : ScopeStack) : Prop where
  root : (t.scope Scope.rootSerial).SameContents (t'.scope Scope.rootSerial)
  others : ∀ n, n ≠ Scope.rootSerial → t'.scope? n = t.scope? n

theorem sameAtRoot_configure_overlay (h : x.Takes a) (h' : (x.configure a).1.Takes b) (hover : x.Takes (a.overlay b)) :
    SameAtRoot ((x.configure a).1.configure b).1.stack (x.configure (a.overlay b)).1.stack where
  root := by
    have hfirst := h.took.scope? Scope.rootSerial
    have hsecond := h'.took.scope? Scope.rootSerial
    have hmerged := hover.took.scope? Scope.rootSerial
    rw [hfirst] at hsecond
    unfold ScopeStack.scope
    rw [hsecond, hmerged]
    cases x.stack.scope? Scope.rootSerial with
    | none => exact ⟨rfl, fun _ => rfl, fun _ => .rfl, rfl, rfl⟩
    | some s => exact Config.sameContents_overlay a b s
  others n hn := by
    rw [h'.took.stack.scope?_of_ne hn, h.took.stack.scope?_of_ne hn, hover.took.stack.scope?_of_ne hn]

/-- Of two configurations that pass the check, the second laid over the first passes it. It is applied if and only if
the first is applied and then the second, whatever the stack and the registry are. The root has the same name then, the
same tokens in every dimension and the same patterns; all other scopes and the registry, with the fields of every type
that are classified, are the same. -/
theorem configure_overlay (x : Access) {a b : Config} (ha : a.check = .ok ()) (hb : b.check = .ok ()) :
    let merged := x.configure (a.overlay b)
    let first := x.configure a
    let second := first.1.configure b
    (a.overlay b).check = .ok () ∧
      (merged.2 = .ok () ↔ first.2 = .ok () ∧ second.2 = .ok ()) ∧
      (merged.2 = .ok () → SameAtRoot second.1.stack merged.1.stack ∧ merged.1.registry = second.1.registry) := by
  intro merged first second
  rw [Config.check_eq_ok] at ha hb
  have hiff : merged.2 = .ok () ↔ first.2 = .ok () ∧ second.2 = .ok () := by
    rw [configure_eq_ok, configure_eq_ok, configure_eq_ok]
    exact takes_overlay ha hb
  refine ⟨Config.check_eq_ok.mpr (ha.overlay hb), hiff, fun hok => ?_⟩
  have hmerged := configure_eq_ok.mp hok
  have hfirst := configure_eq_ok.mp (hiff.mp hok).1
  have hsecond := configure_eq_ok.mp (hiff.mp hok).2
  refine ⟨sameAtRoot_configure_overlay hfirst hsecond hmerged, ?_⟩
  rw [hmerged.took.registry, hsecond.took.registry, hfirst.took.registry]
  exact congrArg Prod.fst (classifyAll_append_of_ok hfirst.classified _)

/-- Orders with a region and a tier, of which none is classified. -/
def plainOrders : Catalog :=
  [⟨"orders", [⟨"tier", .whole .u8, "orders", none⟩, ⟨"region", .text, "orders", none⟩], []⟩]

/-- Tokens with blanks, and a pattern. -/
def office : Config :=
  ⟨some "office", none, .ofList [("region", "EU ,US")], ["read-*"], [⟨"orders", "region", "region"⟩]⟩

/-- Tokens of which one is known, a pattern that is known, and one that is denied. -/
def branchOffice : Config :=
  ⟨some "branch", none, .ofList [("region", " US,,BR"), ("tier", "1")], ["read-*", "!read-salary"],
    [⟨"orders", "tier", "tier"⟩, ⟨"orders", "region", "region"⟩]⟩

theorem configure_overlay_office :
    let x := separate plainOrders .glob
    let merged := x.configure (office.overlay branchOffice)
    let second := (x.configure office).1.configure branchOffice
    (office.overlay branchOffice).clearances.get? "region" = some "EU ,US, US,,BR" ∧
      merged.2 = .ok () ∧ (merged.1.stack.scope 0).clearances.tokens "region" = ["EU", "US", "BR"] ∧
      (merged.1.stack.scope 0).accessor = some "branch" ∧ merged.1.registry = second.1.registry := by
  intro x merged second
  obtain ⟨-, hiff, hagree⟩ := configure_overlay x (a := office) (b := branchOffice) rfl rfl
  have hok : merged.2 = .ok () := hiff.mpr ⟨by decide +kernel, by decide +kernel⟩
  obtain ⟨hroot, hregistry⟩ := hagree hok
  refine ⟨by decide, hok, (hroot.root.tokens "region").trans ?_, hroot.root.accessor.trans ?_, hregistry⟩
  · decide +kernel
  · decide +kernel

end Access

end RowAccess
