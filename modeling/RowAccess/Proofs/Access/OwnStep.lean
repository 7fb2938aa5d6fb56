import Mathlib.Data.List.Basic
import Mathlib.Tactic.Common
import RowAccess.Proofs.Access.Sight
import RowAccess.Proofs.Registry.Classify

/-!
# What a line does itself

A line does the same in the access control that it shares and in the one that it has for itself, each time
with the numbers that things have there. The two stay alike, and the line is answered the same unless it asks
for a restriction; such answers depend on what is kept.
-/

namespace RowAccess

/-- Names of the same scopes and tables. -/
structure Names.Alike (v w : Sight) (known known' : Names) : Prop where
  scopes : v.SameNumbers known.scopes known'.scopes
  tables : w.SameNumbers known.tables known'.tables

/-- Whether an action makes nothing, describes no type and asks for no restriction. -/
def Action.Quiet : Action → Prop
  | register _ => False
  | enter => False
  | addSource _ => False
  | ownRestriction _ _ => False
  | inclusiveRestriction _ _ => False
  | filter _ _ _ => False
  | _ => True

namespace Access

variable {line : Nat} {v w : Sight} {a b : Access} {known known' : Names} {action : Action}

/-- Outcomes that leave two access controls alike, with the same answer to be heard. -/
structure SameOutcome (line : Nat) (v w : Sight) (x y : Access × Except Fault Answer) : Prop where
  state : Alike line v w x.1 y.1
  answer : x.2.map Answer.plain = y.2.map Answer.plain

/-! ### Names -/

theorem Alike.scope (h : Alike line v w a b) (hn : Names.Alike v w known known') (place : Nat) :
    known.scope place = v.rename (known'.scope place) ∧ v.Sees (known'.scope place) := by
  unfold Names.scope
  rw [hn.scopes.eq, List.getElem?_map]
  cases hp : known'.scopes[place]? with
  | none => exact ⟨h.stack.rename_root.symm, h.stack.sees_of_inside h.stack.inside_root⟩
  | some n => exact ⟨rfl, hn.scopes.sees n (List.mem_of_getElem? hp)⟩

theorem Alike.resolveScope (h : Alike line v w a b) (hn : Names.Alike v w known known')
    (ref : ScopeRef) :
    a.resolveScope line (known.ref ref) = v.rename (b.resolveScope line (known'.ref ref)) ∧
      v.Sees (b.resolveScope line (known'.ref ref)) := by
  cases ref with
  | current =>
    obtain ⟨hcurrent, hinside⟩ := h.stack.current h.tree.tree h.tree'.tree h.place
    exact ⟨hcurrent, h.stack.sees_of_inside hinside⟩
  | numbered place => exact h.scope hn place

theorem source_alike (hn : Names.Alike v w known known') (s : SourceRef) :
    known.source s = (known'.source s).rename w.rename ∧ w.Uses (known'.source s) := by
  cases s with
  | stack => exact ⟨rfl, trivial⟩
  | made place =>
    unfold Names.source
    dsimp only
    rw [hn.tables.eq, List.getElem?_map]
    cases hp : known'.tables[place]? with
    | none => exact ⟨rfl, trivial⟩
    | some n => exact ⟨rfl, hn.tables.sees n (List.mem_of_getElem? hp)⟩

/-! ### Scopes -/

theorem Alike.enters (h : Alike line v w a b) :
    Alike line (v.make a.stack.scopes.length) w (a.perform line .enter).1
      (b.perform line .enter).1 := by
  have hplace : (a.perform line .enter).1.place line = (a.stack.enter (a.place line)).2.1 :=
    place_setPlace_self h.here
  have hplace' : (b.perform line .enter).1.place line = (b.stack.enter (b.place line)).2.1 :=
    place_setPlace_self h.here'
  refine { h with
    tree := h.tree.perform line .enter
    tree' := h.tree'.perform line .enter
    stack := h.stack.enter h.tree.tree h.tree'.tree h.place (h.tree.place line) (h.tree'.place line)
    place := ?_
    here := lt_length_perform h.here line .enter
    here' := lt_length_perform h.here' line .enter }
  rw [hplace, hplace']
  exact h.stack.samePlace_enter h.tree'.tree

theorem Alike.exits (h : Alike line v w a b) {n : Nat} (hn : v.Sees n) :
    Alike line v w (a.perform line (.exit (v.rename n))).1 (b.perform line (.exit n)).1 := by
  have hplace : (a.perform line (.exit (v.rename n))).1.place line =
      (a.stack.exit (a.place line) (v.rename n)).2 := place_setPlace_self h.here
  have hplace' : (b.perform line (.exit n)).1.place line = (b.stack.exit (b.place line) n).2 :=
    place_setPlace_self h.here'
  refine { h with
    tree := h.tree.perform line (.exit (v.rename n))
    tree' := h.tree'.perform line (.exit n)
    stack := h.stack.exit h.tree.tree h.tree'.tree hn _ _
    place := ?_
    here := lt_length_perform h.here line (.exit (v.rename n))
    here' := lt_length_perform h.here' line (.exit n) }
  rw [hplace, hplace']
  exact h.stack.samePlace_exit h.tree.tree h.tree'.tree hn h.place

/-- A scope that the line sees is changed in both stacks. -/
theorem Alike.changes (h : Alike line v w a b) {n m : Nat} {t u : ScopeStack} (hs : v.Alike t u)
    (ht : a.stack.Changes n t) (hu : b.stack.Changes m u) :
    Alike line v w { a with stack := t } { b with stack := u } :=
  { h with
    tree := h.tree.changes ht
    tree' := h.tree'.changes hu
    stack := hs
    place := h.place.changes ht hu }

theorem Alike.changeStack (h : Alike line v w a b) {n : Nat} {x y : Except Fault ScopeStack}
    (ht : v.Together a.stack b.stack n x y) :
    SameOutcome line v w (a.changeStack x) (b.changeStack y) := by
  cases ht with
  | failed f => exact ⟨h, rfl⟩
  | changed ht hu hs => exact ⟨h.changes hs ht hu, rfl⟩

/-- A change of a scope that is named, in both stacks. -/
theorem Alike.changeScope (h : Alike line v w a b) (hn : Names.Alike v w known known')
    (ref : ScopeRef) (change : ScopeStack → Nat → Except Fault ScopeStack)
    (hc : ∀ {n}, v.Sees n →
      v.Together a.stack b.stack n (change a.stack (v.rename n)) (change b.stack n)) :
    SameOutcome line v w
      (a.changeStack (change a.stack (a.resolveScope line (known.ref ref))))
      (b.changeStack (change b.stack (b.resolveScope line (known'.ref ref)))) := by
  obtain ⟨heq, hsees⟩ := h.resolveScope hn ref
  rw [heq]
  exact h.changeStack (hc hsees)

/-- A question about a scope that is named. -/
theorem Alike.askScope (h : Alike line v w a b) (hn : Names.Alike v w known known')
    (ref : ScopeRef) (answer : ScopeStack → Nat → Answer)
    (ha : ∀ {n}, v.Sees n → answer a.stack (v.rename n) = answer b.stack n) :
    SameOutcome line v w (a, .ok (answer a.stack (a.resolveScope line (known.ref ref))))
      (b, .ok (answer b.stack (b.resolveScope line (known'.ref ref)))) := by
  obtain ⟨heq, hsees⟩ := h.resolveScope hn ref
  refine ⟨h, ?_⟩
  dsimp only
  rw [heq, ha hsees]

theorem Alike.branches (h : Alike line v w a b) (inherits : Bool) :
    Alike line v w (a.perform line (.branch inherits)).1 (b.perform line (.branch inherits)).1 := by
  have hplace : (a.perform line (.branch inherits)).1.place line = a.place line := place_append h.here
  have hplace' : (b.perform line (.branch inherits)).1.place line = b.place line :=
    place_append h.here'
  refine { h with
    tree := h.tree.perform line (.branch inherits)
    tree' := h.tree'.perform line (.branch inherits)
    place := ?_
    here := lt_length_perform h.here line (.branch inherits)
    here' := lt_length_perform h.here' line (.branch inherits) }
  rw [hplace, hplace']
  exact h.place

/-! ### Types -/

theorem Alike.classifies (h : Alike line v w a b) (entity field dimension : String) :
    SameOutcome line v w (a.perform line (.classify entity field dimension))
      (b.perform line (.classify entity field dimension)) := by
  obtain ⟨hresult, hfacts⟩ := Registry.classify_congr h.facts entity field dimension
  constructor
  · exact h.registries (Registry.classify_frame ..).2 (Registry.classify_frame ..).2 hfacts
  · show ((a.registry.classify entity field dimension).2.map fun _ => Answer.done).map _ =
      ((b.registry.classify entity field dimension).2.map fun _ => Answer.done).map _
    rw [hresult]

theorem Alike.asksBuilder (h : Alike line v w a b) (entity : String) :
    SameOutcome line v w (a.perform line (.builder entity)) (b.perform line (.builder entity)) := by
  constructor
  · exact h.extends (Registry.extends_get _ entity) (Registry.extends_get _ entity)
  · have hplain : ∀ r : Registry, ((r.get entity).2.map Answer.builder).map Answer.plain =
        ((r.facts entity).map Facts.builder).map Answer.builder := by
      intro r
      rw [← Registry.get_emptied]
      cases (r.get entity).2 <;> rfl
    show ((a.registry.get entity).2.map Answer.builder).map _ =
      ((b.registry.get entity).2.map Answer.builder).map _
    rw [hplain, hplain, h.facts]

theorem classifyAll_congr : ∀ (cs : List Classification) {r r' : Registry}, r.facts = r'.facts →
    (classifyAll r cs).2 = (classifyAll r' cs).2 ∧
      (classifyAll r cs).1.facts = (classifyAll r' cs).1.facts
  | [], _, _, h => ⟨rfl, h⟩
  | c :: rest, r, r', h => by
      have hstep := Registry.classify_congr h c.entity c.field c.dimension
      unfold classifyAll
      generalize r.classify c.entity c.field c.dimension = x at hstep
      generalize r'.classify c.entity c.field c.dimension = y at hstep
      obtain ⟨r₁, result⟩ := x
      obtain ⟨r₁', result'⟩ := y
      obtain ⟨hresult, hfacts⟩ := hstep
      obtain rfl : result = result' := hresult
      cases result with
      | error f => exact ⟨rfl, hfacts⟩
      | ok _ => exact classifyAll_congr rest hfacts

theorem classifyAll_source : ∀ (cs : List Classification) (r : Registry),
    (classifyAll r cs).1.source = r.source
  | [], _ => rfl
  | c :: rest, r => by
      have hstep := (Registry.classify_frame r c.entity c.field c.dimension).2
      unfold classifyAll
      generalize r.classify c.entity c.field c.dimension = x at hstep
      obtain ⟨r₁, result⟩ := x
      cases result with
      | error f => exact hstep
      | ok _ => exact (classifyAll_source rest r₁).trans hstep

/-- The root gets its name and its tokens in both stacks. -/
theorem Alike.cleared (h : Alike line v w a b) (c : Config) :
    v.Alike (a.cleared c) (b.cleared c) := by
  have hroot := h.stack.sees_of_inside h.stack.inside_root
  have hnamed : v.Alike (a.named c) (b.named c) := by
    unfold named
    cases c.accessor with
    | none => exact h.stack
    | some name =>
      have hname := h.stack.setAccessor hroot name
      rwa [h.stack.rename_root] at hname
  have hlists := hnamed.addClearanceLists hroot c.clearances.entries
  rwa [h.stack.rename_root] at hlists

theorem Alike.configures (h : Alike line v w a b) (c : Config) :
    Alike line v w (a.configure c).1 (b.configure c).1 ∧ (a.configure c).2 = (b.configure c).2 := by
  have hcleared := h.cleared c
  have ht := a.changes_cleared c
  have hu := b.changes_cleared c
  rw [configure_eq_configured, configure_eq_configured]
  cases c.check with
  | error f => exact ⟨h, rfl⟩
  | ok _ =>
    show Alike line v w (a.configured c).1 (b.configured c).1 ∧ (a.configured c).2 = (b.configured c).2
    have htogether := hcleared.insertPermissions (h.stack.sees_of_inside h.stack.inside_root)
      (Scope.splitPermissions c.permissions).1 (Scope.splitPermissions c.permissions).2
    rw [h.stack.rename_root] at htogether
    unfold configured ScopeStack.addPermissions
    dsimp only
    generalize (a.cleared c).insertPermissions _ _ _ = x at htogether
    generalize (b.cleared c).insertPermissions _ _ _ = y at htogether
    cases htogether with
    | failed f => exact ⟨h.changes hcleared ht hu, rfl⟩
    | changed hp hq hs =>
      rw [h.stack.rename_root] at hp
      obtain ⟨hresult, hfacts⟩ := classifyAll_congr c.classifications h.facts
      have hstack := h.changes hs (ht.trans hp) (hu.trans hq)
      exact ⟨hstack.registries (classifyAll_source ..) (classifyAll_source ..) hfacts, hresult⟩

/-! ### Sources -/

theorem Alike.addsSource (h : Alike line v w a b) (s : Source) :
    Alike line v (w.make a.sources.length) (a.perform line (.addSource s)).1
      (b.perform line (.addSource s)).1 := by
  refine { h with
    tree := ⟨h.tree.tree, h.tree.placed⟩
    tree' := ⟨h.tree'.tree, h.tree'.placed⟩
    tables := h.tables.add s
    source := ?_
    uses := fun x hx => (h.uses x hx).make }
  show a.registry.source = b.registry.source.map _
  rw [h.source]
  cases hx : b.registry.source with
  | none => rfl
  | some x => exact congrArg some (Sight.Uses.rename_make h.tables.counts (h.uses x hx)).symm

theorem Alike.changesSource (h : Alike line v w a b) (hn : Names.Alike v w known known')
    (place : Nat) (change : SourceChange) :
    SameOutcome line v w (a.perform line (known.change place change))
      (b.perform line (known'.change place change)) := by
  unfold Names.change
  rw [hn.tables.eq, List.getElem?_map]
  cases hp : known'.tables[place]? with
  | none => exact ⟨h, rfl⟩
  | some n =>
    refine ⟨?_, rfl⟩
    exact { h with
      tree := ⟨h.tree.tree, h.tree.placed⟩
      tree' := ⟨h.tree'.tree, h.tree'.placed⟩
      tables := h.tables.change (hn.tables.sees n (List.mem_of_getElem? hp)) change.apply }

theorem Alike.setsStandardSource (h : Alike line v w a b) {s : SourceRef} (hs : w.Uses s) :
    Alike line v w (a.perform line (.setStandardSource (s.rename w.rename))).1
      (b.perform line (.setStandardSource s)).1 :=
  { h with
    tree := ⟨h.tree.tree, h.tree.placed⟩
    tree' := ⟨h.tree'.tree, h.tree'.placed⟩
    source := rfl
    uses := fun _ hx => Option.some.inj hx ▸ hs
    facts := (Registry.facts_switched a.registry _).trans
      (h.facts.trans (Registry.facts_switched b.registry _).symm) }

/-! ### Quiet actions -/

/-- An action that makes nothing and asks for no restriction has the same outcome. -/
theorem Alike.quiet (h : Alike line v w a b) (hn : Names.Alike v w known known')
    (hq : action.Quiet) :
    SameOutcome line v w (a.perform line (action.spell known))
      (b.perform line (action.spell known')) := by
  cases action with
  | register => exact hq.elim
  | enter => exact hq.elim
  | addSource => exact hq.elim
  | ownRestriction => exact hq.elim
  | inclusiveRestriction => exact hq.elim
  | filter => exact hq.elim
  | classify entity field dimension => exact h.classifies entity field dimension
  | builder entity => exact h.asksBuilder entity
  | exit place =>
    obtain ⟨heq, hsees⟩ := h.scope hn place
    show SameOutcome line v w (a.perform line (.exit (known.scope place)))
      (b.perform line (.exit (known'.scope place)))
    rw [heq]
    exact ⟨h.exits hsees, rfl⟩
  | setAccessor ref name =>
    exact h.changeScope hn ref (fun t n => .ok (t.setAccessor n name)) fun hs =>
      .changed (ScopeStack.changes_setAccessor ..) (ScopeStack.changes_setAccessor ..)
        (h.stack.setAccessor hs name)
  | addClearances ref dimension tokens =>
    exact h.changeScope hn ref (fun t n => .ok (t.addClearances n dimension tokens)) fun hs =>
      .changed (ScopeStack.changes_addClearances ..) (ScopeStack.changes_addClearances ..)
        (h.stack.addClearances hs dimension tokens)
  | addClearanceLists ref lists =>
    exact h.changeScope hn ref (fun t n => .ok (t.addClearanceLists n lists)) fun hs =>
      .changed (ScopeStack.changes_addClearanceLists ..) (ScopeStack.changes_addClearanceLists ..)
        (h.stack.addClearanceLists hs lists)
  | addPermissions ref tokens =>
    exact h.changeScope hn ref (fun t n => t.addPermissions n tokens) fun hs =>
      h.stack.insertPermissions hs _ _
  | addDenied ref patterns =>
    exact h.changeScope hn ref (fun t n => t.addDenied n patterns) fun hs =>
      h.stack.insertPermissions hs _ _
  | configure c =>
    obtain ⟨hstate, hresult⟩ := h.configures c
    refine ⟨hstate, ?_⟩
    show ((a.configure c).2.map fun _ => Answer.done).map _ = ((b.configure c).2.map fun _ => _).map _
    rw [hresult]
  | changeSource place change => exact h.changesSource hn place change
  | setStandardSource s =>
    obtain ⟨heq, huses⟩ := source_alike hn s
    show SameOutcome line v w (a.perform line (.setStandardSource (known.source s))) _
    rw [heq]
    exact ⟨h.setsStandardSource huses, rfl⟩
  | clearances ref dimension =>
    refine h.askScope hn ref (fun t n => .tokens (t.effectiveClearances n dimension)) fun hs => ?_
    rw [h.stack.effectiveClearances h.tree.tree h.tree'.tree hs]
  | accessor ref =>
    refine h.askScope hn ref (fun t n => .accessor (t.accessor n)) fun hs => ?_
    rw [h.stack.accessor h.tree.tree h.tree'.tree hs]
  | isPermitted ref name =>
    refine h.askScope hn ref (fun t n => .flag (t.isPermitted n name)) fun hs => ?_
    rw [h.stack.isPermitted h.tree.tree h.tree'.tree hs]
  | branch inherits => exact ⟨h.branches inherits, rfl⟩

end Access

end RowAccess
