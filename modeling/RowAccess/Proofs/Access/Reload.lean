import Mathlib.Data.List.Basic
import Mathlib.Tactic.Common
import RowAccess.Proofs.Access.Configuration
import RowAccess.Proofs.Access.Consulted
import RowAccess.Proofs.Access.Refusal
import RowAccess.Proofs.Registry.Replay

/-!
# Configurations that are applied again

A configuration that was applied can be applied again, and changes nothing then but how often the root was changed. So
the stack reports another version of the same clearances, and requests are answered as they were before.
-/

namespace RowAccess

namespace Access

open Facts (Acyclic)
open Registry (Everywhere)

variable {a b : Access} {c : Config} {line line' : Nat} {action : Action} {source : Option SourceRef} {entity : String}

/-! ### Nothing but counters -/

/-- An access control that differs from another one in nothing but how often scopes were changed. -/
structure Recounts (a b : Access) : Prop where
  scopes : ∀ n, ∃ revision, b.stack.scope? n = (a.stack.scope? n).map fun s => { s with revision }
  eq : b = { a with stack := { a.stack with scopes := b.stack.scopes, epoch := b.stack.epoch } }

theorem Recounts.registry (h : a.Recounts b) : b.registry = a.registry := by
  rw [h.eq]

/-- Lines that are in one scope see the same clearances of the stack, under whatever version. -/
theorem Recounts.view (h : a.Recounts b) (hline : a.current line' = a.current line) :
    (b.view line' .stack).id = (a.view line .stack).id ∧
      (b.view line' .stack).tokens = (a.view line .stack).tokens := by
  have hsame : ∀ {β : Type} (f : Scope → β), (∀ s revision, f { s with revision } = f s) →
      ∀ n, (b.stack.scope? n).map f = (a.stack.scope? n).map f := by
    intro β f hf n
    obtain ⟨revision, heq⟩ := h.scopes n
    rw [heq, Option.map_map]
    exact congrArg (Option.map · _) (funext fun s => hf s revision)
  have hclearances : b.stack.effectiveClearances = a.stack.effectiveClearances :=
    ScopeStack.effectiveClearances_congr (hsame Scope.parent fun _ _ => rfl) fun n d =>
      hsame (fun s => s.clearances.tokens d) (fun _ _ => rfl) n
  have hentered : b.stack.entered = a.stack.entered := by rw [h.eq]
  have hcurrent : b.current line' = a.current line := by
    rw [← hline, current, current, ScopeStack.current_congr hentered, h.eq]
    rfl
  refine ⟨rfl, ?_⟩
  show b.stack.effectiveClearances (b.current line') = a.stack.effectiveClearances (a.current line)
  rw [hclearances, hcurrent]

/-! ### A configuration again -/

theorem registrations_of_takes (h : a.Takes c) : a.registrations (.configure c) = c.classifications := by
  show c.check.toOption.elim [] _ = _
  rw [Config.check_eq_ok.mpr h.worded, h.addPermissions]
  exact Registry.accepted_of_ok h.classified

/-- Where the stack is as a configuration left it and all its fields are classified, it is applied again. -/
theorem Takes.again (h : a.Takes c) (hstack : b.stack = (a.configure c).1.stack)
    (hclassified : classifyAll b.registry c.classifications = (b.registry, .ok ())) :
    b.Takes c ∧ b.Recounts (b.configure c).1 := by
  have htook := h.took
  have htakes : b.Takes c := by
    refine ⟨h.worded, fun p hp => ?_, congrArg Prod.snd hclassified⟩
    rw [hstack, htook.matcher]
    exact h.readable p hp
  have hagain := htakes.took
  obtain ⟨-, hmatcher, hentered, hleft⟩ := hagain.stack.frame
  refine ⟨htakes, fun n => ?_, ?_⟩
  · rw [hagain.scope? n, hstack, htook.scope? n]
    cases a.stack.scope? n with
    | none => exact ⟨0, rfl⟩
    | some s =>
      simp only [Option.map_some]
      split
      next hroot =>
        obtain ⟨revision, heq⟩ := c.onRoot_onRoot s
        exact ⟨revision, congrArg some heq⟩
      next hother => exact ⟨s.revision, rfl⟩
  · have hrest : (b.configure c).1.stack = { b.stack with
        scopes := (b.configure c).1.stack.scopes
        epoch := (b.configure c).1.stack.epoch } := by
      simp only [← hmatcher, ← hentered, ← hleft]
    refine hagain.eq.trans ?_
    rw [hclassified, ← hrest]

/-! ### Requests before and after -/

theorem sees_of_request (h : action.request? = some (source, entity)) : a.sees line action = a.seen line source := by
  cases action with
  | ownRestriction => rw [(Prod.mk.inj (Option.some.inj h)).1.symm]; rfl
  | inclusiveRestriction => rw [(Prod.mk.inj (Option.some.inj h)).1.symm]; rfl
  | filter => rw [(Prod.mk.inj (Option.some.inj h)).1.symm]; rfl
  | _ => cases h

/-- Over a run, versions of the stack stand for its clearances, and in own slots for what was built of these. -/
theorem exists_stamped (catalog : Catalog) (m : Matcher) (acts : List (Nat × Action)) :
    ∃ promise : Promise, (∀ view ∈ (separate catalog m).observed acts, view.id = .stack → view.Honors promise) ∧
      Everywhere (fun _ b => b.Stamped promise .stack) ((separate catalog m).run acts).1.registry := by
  obtain ⟨promise, hpromise⟩ := exists_honored (separate catalog m) acts .stack nofun
  refine ⟨promise, hpromise, ?_⟩
  exact ((separate catalog m).course_run acts).everywhere (Builder.lasting_stamped promise .stack)
    (fun _ hk hid => hpromise _ (view_mem_observed hk) hid) nofun

theorem Asks.extends {ask : Registry → SourceView → Registry × Except Fault Restriction} (h : Asks entity ask)
    (r : Registry) (view : SourceView) : r.Extends (ask r view).1 := by
  cases h with
  | own => exact Registry.extends_ownRestriction r view entity
  | inclusive => exact Registry.extends_inclusiveRestriction r view entity

/-- Asked again under the same tokens, a registry answers the same. -/
theorem Asks.again {ask : Registry → SourceView → Registry × Except Fault Restriction} (h : Asks entity ask)
    {r : Registry} {view view' : SourceView} {promise : Promise} (hacyclic : Acyclic r.facts entity)
    (hid : view'.id = view.id) (htokens : view'.tokens = view.tokens) (hk : view.Honors promise)
    (hs : Everywhere (fun _ b => b.Stamped promise view.id) (ask r view).1) :
    (ask (ask r view).1 view').2 = (ask r view).2 := by
  cases h with
  | own => exact Registry.ownRestriction_again hid htokens hk hs
  | inclusive => exact Registry.inclusiveRestriction_again hacyclic hid htokens hk hs

/-- In every state that a run comes to, a request to the stack is answered the same once more, to any line in the same
scope, where nothing but counters changed since. -/
theorem answer_again (catalog : Catalog) (m : Matcher) (acts : List (Nat × Action))
    (hrequest : action.request? = some (source, entity))
    (hs : ((separate catalog m).run acts).1.sourceOr source = .ok .stack)
    (hacyclic : Acyclic ((separate catalog m).run acts).1.registry.facts entity)
    (hline : ((separate catalog m).run acts).1.current line' = ((separate catalog m).run acts).1.current line)
    (h : (((separate catalog m).run acts).1.perform line action).1.Recounts b) :
    (b.perform line' action).2 = (((separate catalog m).run acts).1.perform line action).2 := by
  obtain ⟨promise, hpromise, hstamped⟩ := exists_stamped catalog m (acts ++ [(line, action)])
  have hrun : ((separate catalog m).run (acts ++ [(line, action)])).1 =
      (((separate catalog m).run acts).1.perform line action).1 := by
    rw [run_append]
    rfl
  rw [hrun] at hstamped
  rw [observed_append] at hpromise
  generalize ((separate catalog m).run acts).1 = a at *
  obtain ⟨ask, hask, tell, hperform⟩ := exists_ask hrequest
  have hview : a.view line .stack ∈ a.observed [(line, action)] := by
    refine List.mem_append_left _ ?_
    rw [sees_of_request hrequest]
    exact seen_ok hs
  have hhonors := hpromise _ (List.mem_append_right _ hview) rfl
  rw [hperform, request_of_source hs] at h hstamped
  have hregistry : b.registry = (ask a.registry (a.view line .stack)).1 := h.registry
  have hid : (b.view line' .stack).id = (a.view line .stack).id := (h.view hline).1
  have htokens : (b.view line' .stack).tokens = (a.view line .stack).tokens := (h.view hline).2
  have hs' : b.sourceOr source = .ok .stack := by
    unfold sourceOr Registry.standardSource at hs ⊢
    rw [hregistry, (hask.extends _ _).source]
    exact hs
  rw [hperform, hperform, request_of_source hs, request_of_source hs']
  dsimp only
  rw [hregistry, hask.again hacyclic hid htokens hhonors hstamped]

/-- In every state that a run comes to, a configuration that is applied can be applied again at once. Nothing changes
then but the number of changes of the root: its name, its dimensions with their tokens and its patterns stay, and so do
the fields of every type that are classified. A request to the stack for a type that reaches no cycle, made before the
configuration is applied again, does not hinder this; and afterwards it is answered the same, by the same object or
with the same fault, to this line and to any other one in the same scope. -/
theorem configure_again (catalog : Catalog) (m : Matcher) (before : List (Nat × Action)) {c : Config}
    (h : (((separate catalog m).run before).1.configure c).2 = .ok ()) :
    let once := (((separate catalog m).run before).1.configure c).1
    ((once.configure c).2 = .ok () ∧ once.Recounts (once.configure c).1) ∧
      ∀ line action source entity, action.request? = some (source, entity) →
        once.sourceOr source = .ok .stack → Acyclic once.registry.facts entity →
        let first := once.perform line action
        let again := first.1.configure c
        again.2 = .ok () ∧ first.1.Recounts again.1 ∧
          ∀ line', once.current line' = once.current line → (again.1.perform line' action).2 = first.2 := by
  intro once
  have htakes := configure_eq_ok.mp h
  have hrun : ((separate catalog m).run (before ++ [(0, .configure c)])).1 = once := by
    rw [run_append]
    rfl
  have hdistinct : once.registry.Distinct := hrun ▸ registryDistinct_run _ List.nodup_nil
  obtain ⟨log, hmapped⟩ : ∃ log, once.registry.Mapped (log ++ c.classifications) := by
    have hconfigured := mapped_configure (mapped_run before (a := separate catalog m) (Registry.mapped_new catalog)) c
    rw [registrations_of_takes htakes] at hconfigured
    exact ⟨_, hconfigured⟩
  have hlogged : ∀ k ∈ c.classifications, k ∈ log ++ c.classifications := fun k hk => List.mem_append_right _ hk
  refine ⟨?_, fun line action source entity hrequest hs hacyclic => ?_⟩
  · obtain ⟨hagain, hrecounts⟩ := htakes.again rfl (hdistinct.classifyAll_mapped hmapped hlogged)
    exact ⟨configure_eq_ok.mpr hagain, hrecounts⟩
  · intro first again
    have hstack : first.1.stack = once.stack := by
      obtain ⟨ask, -, tell, hperform⟩ := exists_ask hrequest
      show (once.perform line action).1.stack = _
      rw [hperform, request_eq]
    have hrun' : ((separate catalog m).run (before ++ [(0, .configure c)] ++ [(line, action)])).1 = first.1 := by
      rw [run_append, hrun]
      rfl
    have hdistinct' : first.1.registry.Distinct := hrun' ▸ registryDistinct_run _ List.nodup_nil
    obtain ⟨hagain, hrecounts⟩ := htakes.again hstack
      (hdistinct'.classifyAll_mapped (mapped_perform hmapped line action) fun k hk =>
        List.mem_append_left _ (hlogged k hk))
    refine ⟨configure_eq_ok.mpr hagain, hrecounts, fun line' hline => ?_⟩
    rw [← hrun] at hs hacyclic hline
    have hanswer := answer_again (b := again.1) catalog m _ hrequest hs hacyclic hline (by rw [hrun]; exact hrecounts)
    rwa [hrun] at hanswer

/-- Invoices with the orders that they are for. -/
def invoices : Catalog :=
  [⟨"invoices", [⟨"office", .text, "invoices", none⟩], [⟨"order", "orders"⟩]⟩,
    ⟨"orders", [⟨"region", .text, "orders", none⟩], []⟩]

/-- A configuration with one field twice, and with a permission, which counts as a change each time. -/
def offices : Config :=
  ⟨some "desk", none, .ofList [("office", "north"), ("region", "EU, US")], ["read-*"],
    [⟨"invoices", "office", "office"⟩, ⟨"orders", "region", "region"⟩, ⟨"invoices", "office", "office"⟩]⟩

theorem configure_again_offices :
    let once := ((separate invoices .glob).configure offices).1
    let first := once.perform 0 (.inclusiveRestriction (some .stack) "invoices")
    let again := first.1.configure offices
    again.2 = .ok () ∧ again.1.stack.epoch = first.1.stack.epoch + 1 ∧ first.2.isOk = true ∧
      (again.1.perform 0 (.inclusiveRestriction (some .stack) "invoices")).2 = first.2 := by
  intro once first again
  have hok : (((separate invoices .glob).run []).1.configure offices).2 = .ok () := by decide +kernel
  have hacyclic : Acyclic once.registry.facts "invoices" := by
    have hedges : ∀ t ∈ once.registry.types, ((once.registry.facts t).toOption.elim [] Facts.edges).map Edge.target =
        if t = "invoices" then ["orders"] else [] := by decide +kernel
    refine Facts.acyclic_of_rank (fun t => if t = "invoices" then 1 else 0) (fun {t known} hknown e he => ?_) _
    have htarget := hedges t (Registry.mem_types hknown)
    rw [hknown] at htarget
    have hmem : e.target ∈ if t = "invoices" then ["orders"] else [] := htarget ▸ List.mem_map_of_mem he
    split at hmem
    · rw [List.mem_singleton.mp hmem, if_neg (by decide)]
      simp [*]
    · cases hmem
  obtain ⟨-, hrequests⟩ := configure_again invoices .glob [] hok
  obtain ⟨hagain, -, hanswer⟩ := hrequests 0 (.inclusiveRestriction (some .stack) "invoices") (some .stack) "invoices"
    rfl rfl hacyclic
  exact ⟨hagain, by decide +kernel, by decide +kernel, hanswer 0 rfl⟩

end Access

end RowAccess
