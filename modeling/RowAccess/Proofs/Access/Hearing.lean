import Mathlib.Data.List.Basic
import Mathlib.Tactic.Common
import RowAccess.Proofs.Access.Admission
import RowAccess.Proofs.Access.OwnStep
import RowAccess.Proofs.Registry.Bound

/-!
# What a line hears

Requests of a line look at sources that hold the same tokens, whether the line shares the access control or
has it for itself. What is kept of earlier requests does not show, so the line is answered the same.
-/

namespace RowAccess

/-! ### Looks at sources -/

/-- Two looks at sources with the same tokens, and the same in all if the source's identity is the host's. -/
structure SourceView.Matches (x y : SourceView) : Prop where
  tokens : x.tokens = y.tokens
  host : ∀ u, y.id = .host u → x = y

theorem SourceView.Matches.refl (x : SourceView) : x.Matches x := ⟨rfl, fun _ _ => rfl⟩

/-- Looks that all match faithful ones are faithful. -/
theorem Faithful.of_matches {xs ys : List SourceView} (h : Faithful xs)
    (hm : ∀ y ∈ ys, ∃ x ∈ xs, x.Matches y) : Faithful ys := by
  constructor
  · intro y hy d
    obtain ⟨x, hx, hxy⟩ := hm y hy
    rw [← hxy.tokens]
    exact h.fits x hx d
  · intro y hy z hz u hu ver hid hyv hzv
    obtain ⟨x, hx, hxy⟩ := hm y hy
    obtain ⟨x', hx', hxz⟩ := hm z hz
    obtain rfl := hxy.host u hu
    obtain rfl := hxz.host u (hid.symm.trans hu)
    exact h.host x hx x' hx' u hu ver hid hyv hzv

/-! ### Restrictions with the same content -/

namespace Restriction

theorem plain_congr {x y : Restriction} (h : x.content = y.content) : x.plain = y.plain := by
  cases x <;> cases y <;> cases h <;> rfl

theorem admits_congr {x y : Restriction} (h : x.content = y.content) : x.admits = y.admits := by
  funext r
  rw [admits_eq, admits_eq, h]

/-- What depends on contents only is the same of results with the same contents. -/
theorem map_congr {β : Type} {f : Restriction → β} {x y : Except Fault Restriction}
    (hf : ∀ {p q : Restriction}, p.content = q.content → f p = f q)
    (h : x.map content = y.map content) : x.map f = y.map f := by
  cases x with
  | error e =>
    cases y with
    | error e' => exact congrArg Except.error (Except.error.inj h)
    | ok q => cases h
  | ok p =>
    cases y with
    | error e' => cases h
    | ok q => exact congrArg Except.ok (hf (Except.ok.inj h))

end Restriction

namespace Access

open Registry (Coherent)

variable {line : Nat} {v w : Sight} {a b : Access} {known known' : Names} {action : Action}
  {promise promise' : Promise}

/-! ### Sources of the line -/

theorem Alike.sourceOr (h : Alike line v w a b) (hn : Names.Alike v w known known')
    (source : Option SourceRef) :
    a.sourceOr (source.map known.source) =
        (b.sourceOr (source.map known'.source)).map (SourceRef.rename w.rename) ∧
      ∀ s, b.sourceOr (source.map known'.source) = .ok s → w.Uses s := by
  cases source with
  | some s =>
    obtain ⟨heq, huses⟩ := source_alike hn s
    exact ⟨congrArg Except.ok heq, fun x hx => Except.ok.inj hx ▸ huses⟩
  | none =>
    have huses := h.uses
    show a.registry.standardSource = b.registry.standardSource.map _ ∧
      ∀ s, b.registry.standardSource = .ok s → w.Uses s
    unfold Registry.standardSource
    rw [h.source]
    cases hb : b.registry.source with
    | none => exact ⟨rfl, fun x hx => by cases hx⟩
    | some s => exact ⟨rfl, fun x hx => Except.ok.inj hx ▸ huses s hb⟩

theorem Alike.view (h : Alike line v w a b) {s : SourceRef} (hs : w.Uses s) :
    (a.view line (s.rename w.rename)).Matches (b.view line s) := by
  cases s with
  | stack =>
    obtain ⟨hcurrent, hinside⟩ := h.stack.current h.tree.tree h.tree'.tree h.place
    refine ⟨?_, fun u hu => by cases hu⟩
    show a.stack.effectiveClearances (a.stack.current (a.place line)) =
      b.stack.effectiveClearances (b.stack.current (b.place line))
    rw [hcurrent]
    exact h.stack.effectiveClearances h.tree.tree h.tree'.tree (h.stack.sees_of_inside hinside)
  | made n =>
    obtain ⟨s, hx, hy⟩ := h.tables.table hs
    show (a.view line (.made (w.rename n))).Matches _
    rw [view_made_some hx, view_made_some hy]
    refine ⟨rfl, fun u hu => ?_⟩
    cases s with
    | static => cases hu
    | function => cases hu
    | host => rfl

theorem Alike.seen (h : Alike line v w a b) (hn : Names.Alike v w known known')
    (source : Option SourceRef) {y : SourceView} (hy : y ∈ b.seen line (source.map known'.source)) :
    ∃ x ∈ a.seen line (source.map known.source), x.Matches y := by
  obtain ⟨heq, huses⟩ := h.sourceOr hn source
  unfold Access.seen at hy ⊢
  rw [heq]
  cases hb : b.sourceOr (source.map known'.source) with
  | error f =>
    rw [hb] at hy
    cases hy
  | ok s =>
    rw [hb] at hy
    rw [List.mem_singleton.mp hy]
    exact ⟨_, List.mem_singleton_self _, h.view (huses s hb)⟩

/-- What an action sees alone, it sees where the access control is shared. -/
theorem Alike.sees (h : Alike line v w a b) (hn : Names.Alike v w known known') {y : SourceView}
    (hy : y ∈ b.sees line (action.spell known')) :
    ∃ x ∈ a.sees line (action.spell known), x.Matches y := by
  cases action with
  | ownRestriction source entity => exact h.seen hn source hy
  | inclusiveRestriction source entity => exact h.seen hn source hy
  | filter source entity rows => exact h.seen hn source hy
  | changeSource place change =>
    have hnone : b.sees line (known'.change place change) = [] := by
      unfold Names.change
      cases known'.tables[place]? <;> rfl
    exact absurd (hnone ▸ hy) List.not_mem_nil
  | _ => cases hy

/-! ### Answers -/

/-- Whatever is found out from the tokens of a request's source is the same. -/
theorem Alike.bind_sourceOr (h : Alike line v w a b) (hn : Names.Alike v w known known')
    (source : Option SourceRef) {β : Type} (f : (String → List String) → Except Fault β) :
    ((a.sourceOr (source.map known.source)).bind fun s => f (a.view line s).tokens) =
      (b.sourceOr (source.map known'.source)).bind fun s => f (b.view line s).tokens := by
  obtain ⟨heq, huses⟩ := h.sourceOr hn source
  rw [heq]
  cases hb : b.sourceOr (source.map known'.source) with
  | error f => rfl
  | ok s => exact congrArg f (h.view (huses s hb)).tokens

/-- A request for the own fields is answered with the same content, whatever is kept in the registries. -/
theorem Alike.ownRestriction (h : Alike line v w a b) (hn : Names.Alike v w known known')
    (source : Option SourceRef) (entity : String) (hc : ∃ l, Coherent promise l a.registry)
    (hk : ∀ view ∈ a.seen line (source.map known.source), view.Keeps promise)
    (hc' : ∃ l, Coherent promise' l b.registry)
    (hk' : ∀ view ∈ b.seen line (source.map known'.source), view.Keeps promise') :
    (a.ownRestriction line (source.map known.source) entity).2.map Restriction.content =
      (b.ownRestriction line (source.map known'.source) entity).2.map Restriction.content := by
  rw [ownRestriction_content hc hk, ownRestriction_content hc' hk']
  unfold ownMeaning
  rw [Registry.ownMeaning_congr h.facts]
  exact h.bind_sourceOr hn source fun tokens => b.registry.ownMeaning tokens entity

theorem Alike.inclusiveRestriction (h : Alike line v w a b) (hn : Names.Alike v w known known')
    (source : Option SourceRef) (entity : String) (hc : ∃ l, Coherent promise l a.registry)
    (hk : ∀ view ∈ a.seen line (source.map known.source), view.Keeps promise)
    (hc' : ∃ l, Coherent promise' l b.registry)
    (hk' : ∀ view ∈ b.seen line (source.map known'.source), view.Keeps promise') :
    (a.inclusiveRestriction line (source.map known.source) entity).2.map Restriction.content =
      (b.inclusiveRestriction line (source.map known'.source) entity).2.map Restriction.content := by
  rw [inclusiveRestriction_content hc hk, inclusiveRestriction_content hc' hk']
  unfold inclusiveMeaning
  rw [Registry.inclusiveMeaning_congr h.facts]
  exact h.bind_sourceOr hn source fun tokens => b.registry.inclusiveMeaning tokens entity

/-- A restriction is heard by its content. -/
theorem plain_restriction {x y : Except Fault Restriction}
    (h : x.map Restriction.content = y.map Restriction.content) :
    (x.map Answer.restriction).map Answer.plain = (y.map Answer.restriction).map Answer.plain := by
  have hplain : ∀ x : Except Fault Restriction, (x.map Answer.restriction).map Answer.plain =
      x.map fun p => .restriction p.plain := by
    intro x
    cases x <;> rfl
  rw [hplain, hplain]
  exact Restriction.map_congr (fun hp => congrArg Answer.restriction (Restriction.plain_congr hp)) h

/-- What the line does is answered the same, whatever is kept in the two registries. -/
theorem Alike.answer (h : Alike line v w a b) (hn : Names.Alike v w known known')
    (hr : ∀ s, action ≠ .register s) (hc : ∃ l, Coherent promise l a.registry)
    (hk : ∀ view ∈ a.sees line (action.spell known), view.Keeps promise)
    (hc' : ∃ l, Coherent promise' l b.registry)
    (hk' : ∀ view ∈ b.sees line (action.spell known'), view.Keeps promise') :
    (a.perform line (action.spell known)).2.map Answer.plain =
      (b.perform line (action.spell known')).2.map Answer.plain := by
  have hquiet : action.Quiet → SameOutcome line v w (a.perform line (action.spell known))
    (b.perform line (action.spell known')) := h.quiet hn
  cases action with
  | register s => exact absurd rfl (hr s)
  | enter => rfl
  | addSource s => rfl
  | ownRestriction source entity =>
    exact plain_restriction (h.ownRestriction hn source entity hc hk hc' hk')
  | inclusiveRestriction source entity =>
    exact plain_restriction (h.inclusiveRestriction hn source entity hc hk hc' hk')
  | filter source entity rows =>
    show (a.perform line (.filter _ entity rows)).2.map _ =
      (b.perform line (.filter _ entity rows)).2.map _
    rw [filter_answer, filter_answer]
    refine congrArg (Except.map Answer.plain) (Restriction.map_congr (fun hp => ?_)
      (h.inclusiveRestriction hn source entity hc hk hc' hk'))
    rw [Restriction.admits_congr hp]
  | _ => exact (hquiet trivial).answer

/-! ### Steps -/

theorem Alike.requests (h : Alike line v w a b) (source source' : Option SourceRef)
    {ask : Registry → SourceView → Registry × Except Fault Restriction}
    (hask : ∀ r view, Registry.Extends r (ask r view).1) :
    Alike line v w (a.request line source ask).1 (b.request line source' ask).1 := by
  rw [request_eq a, request_eq b]
  exact h.extends (extends_request a line source hask) (extends_request b line source' hask)

/-- What the line does leaves the two alike; if it made something, it sees that as well. -/
theorem Alike.own (h : Alike line v w a b) (hn : Names.Alike v w known known')
    (hr : ∀ s, action ≠ .register s) :
    ∃ v' w', Alike line v' w' (a.perform line (action.spell known)).1
        (b.perform line (action.spell known')).1 ∧
      Names.Alike v' w' (known.learn a action) (known'.learn b action) ∧
      Sight.reach v' w' = (Sight.reach v w).grow a action := by
  have hquiet : action.Quiet → SameOutcome line v w (a.perform line (action.spell known))
    (b.perform line (action.spell known')) := h.quiet hn
  cases action with
  | register s => exact absurd rfl (hr s)
  | enter =>
    refine ⟨v.make a.stack.scopes.length, w, h.enters, ?_, ?_⟩
    · exact ⟨h.stack.counts.sameNumbers_make hn.scopes, hn.tables⟩
    · show Reach.mk (v.seen ++ (v.own ++ [_])) (v.inside ++ (v.own ++ [_])) _ = _
      rw [← List.append_assoc, ← List.append_assoc]
      rfl
  | addSource s =>
    refine ⟨v, w.make a.sources.length, h.addsSource s, ?_, ?_⟩
    · exact ⟨hn.scopes, h.tables.counts.sameNumbers_make hn.tables⟩
    · show Reach.mk _ _ (w.seen ++ (w.own ++ [_])) = _
      rw [← List.append_assoc]
      rfl
  | ownRestriction source entity =>
    exact ⟨v, w, h.requests _ _ fun r view => Registry.extends_ownRestriction r view entity, hn, rfl⟩
  | inclusiveRestriction source entity =>
    exact ⟨v, w, h.requests _ _ fun r view => Registry.extends_inclusiveRestriction r view entity, hn,
      rfl⟩
  | filter source entity rows =>
    exact ⟨v, w, h.requests _ _ fun r view => Registry.extends_inclusiveRestriction r view entity, hn,
      rfl⟩
  | _ => exact ⟨v, w, (hquiet trivial).state, hn, rfl⟩

end Access

end RowAccess
