import Mathlib.Data.List.Basic
import Mathlib.Tactic.Common
import RowAccess.Proofs.Access.CurrentScope
import RowAccess.Proofs.Access.Turn
import RowAccess.Proofs.Registry.Frame
import RowAccess.Proofs.Scope.SightStep
import RowAccess.Proofs.Source.Sight

/-!
# A shared access control and one for oneself

`Access.Alike` compares an access control that a line shares with one that it has for itself. Other lines
that spare what the line depends on may do what they want: the two stay alike.
-/

namespace RowAccess

/-- A source whose table has another number. -/
def SourceRef.rename (f : Nat → Nat) : SourceRef → SourceRef
  | .stack => .stack
  | .made n => .made (f n)

namespace Sight

def Uses (w : Sight) : SourceRef → Prop
  | .stack => True
  | .made n => w.Sees n

theorem Uses.make {w : Sight} {k : Nat} : ∀ {s : SourceRef}, w.Uses s → (w.make k).Uses s
  | .stack, _ => trivial
  | .made _, h => sees_make.mpr (.inl h)

theorem Uses.rename_make {w : Sight} {k shared alone : Nat} (h : w.Counts shared alone) :
    ∀ {s : SourceRef}, w.Uses s → s.rename (w.make k).rename = s.rename w.rename
  | .stack, _ => rfl
  | .made _, hs => congrArg SourceRef.made (h.rename_make hs)

/-- What a line depends on, by the scopes and the tables that it sees. -/
def reach (v w : Sight) : Reach := ⟨v.seen ++ v.own, v.inside ++ v.own, w.seen ++ w.own⟩

end Sight

namespace Access

/-- What a line sees of the scopes and uses of the tables is alike, and what is known of types is the
same. -/
structure Alike (line : Nat) (v w : Sight) (a b : Access) : Prop where
  tree : a.InTree
  tree' : b.InTree
  stack : v.Alike a.stack b.stack
  place : v.SamePlace a.stack b.stack (a.place line) (b.place line)
  here : line < a.places.length
  here' : line < b.places.length
  tables : w.SameTables a.sources b.sources
  source : a.registry.source = b.registry.source.map (SourceRef.rename w.rename)
  uses : ∀ s, b.registry.source = some s → w.Uses s
  facts : a.registry.facts = b.registry.facts

variable {line l : Nat} {v w : Sight} {a b : Access} {action : Action}

/-! ### Places and registries -/

theorem place_setPlace_of_ne {t : ScopeStack} {q : Place} (h : l ≠ line) :
    (({ a with stack := t } : Access).setPlace l q).place line = a.place line := by
  show ((a.places.set l q)[line]?).getD none = _
  rw [place_set, if_neg fun hc => h hc.1.symm]
  rfl

theorem place_setPlace_self {t : ScopeStack} {q : Place} (h : line < a.places.length) :
    (({ a with stack := t } : Access).setPlace line q).place line = q := by
  show ((a.places.set line q)[line]?).getD none = _
  rw [place_set, if_pos ⟨rfl, h⟩]

theorem place_append {q : Place} (h : line < a.places.length) :
    ((a.places ++ [q])[line]?).getD none = a.place line := by
  rw [List.getElem?_append_left h]
  rfl

theorem InTree.changes (h : a.InTree) {serial : Nat} {t : ScopeStack}
    (hc : a.stack.Changes serial t) : ({ a with stack := t } : Access).InTree :=
  ⟨h.tree.changes hc, fun q hq => ScopeStack.placed_changes (h.placed q hq) hc⟩

theorem extends_request (a : Access) (line : Nat) (source : Option SourceRef)
    {ask : Registry → SourceView → Registry × Except Fault Restriction}
    (hask : ∀ r view, Registry.Extends r (ask r view).1) :
    Registry.Extends a.registry (a.request line source ask).1.registry := by
  rcases request_registry a line source ask with heq | ⟨view, -, heq⟩
  · rw [heq]
    exact .refl _
  · rw [heq]
    exact hask _ view

/-- Registries that know the same and have the same standard sources as before. -/
theorem Alike.registries (h : Alike line v w a b) {r r' : Registry}
    (hr : r.source = a.registry.source) (hr' : r'.source = b.registry.source)
    (hfacts : r.facts = r'.facts) :
    Alike line v w { a with registry := r } { b with registry := r' } where
  tree := ⟨h.tree.tree, h.tree.placed⟩
  tree' := ⟨h.tree'.tree, h.tree'.placed⟩
  stack := h.stack
  place := h.place
  here := h.here
  here' := h.here'
  tables := h.tables
  source := by
    show r.source = r'.source.map _
    rw [hr, hr', h.source]
  uses s hs := h.uses s (hr'.symm.trans hs)
  facts := hfacts

/-- Requests change only what is kept. -/
theorem Alike.extends (h : Alike line v w a b) {r r' : Registry}
    (hr : Registry.Extends a.registry r) (hr' : Registry.Extends b.registry r') :
    Alike line v w { a with registry := r } { b with registry := r' } :=
  h.registries hr.source hr'.source (by rw [hr.facts, hr'.facts, h.facts])

/-! ### Other lines -/

theorem Alike.otherRequests (h : Alike line v w a b) (l : Nat) (source : Option SourceRef)
    {ask : Registry → SourceView → Registry × Except Fault Restriction}
    (hask : ∀ r view, Registry.Extends r (ask r view).1) :
    Alike line v w (a.request l source ask).1 b := by
  rw [request_eq]
  exact h.extends (extends_request a l source hask) (.refl _)

/-- Another line changes a scope that the line does not see. -/
theorem Alike.otherChanges (h : Alike line v w a b) {serial : Nat} {t : ScopeStack}
    (hc : a.stack.Changes serial t) (hs : serial ∉ v.seen ++ v.own) :
    Alike line v w { a with stack := t } b := by
  obtain ⟨hlen, hmatcher, -, -⟩ := hc.frame
  have hscope : ∀ n ∈ v.seen ++ v.own, t.scope? n = a.stack.scope? n :=
    fun n hn => hc.scope?_of_ne fun heq => hs (heq ▸ hn)
  have hstack : v.Alike t b.stack := h.stack.frame (Nat.le_of_eq hlen.symm) hmatcher hscope
    fun n _ => by rw [ScopeStack.isEntered_changes hc]
  exact { h with
    tree := h.tree.changes hc
    stack := hstack
    place := h.place.frame h.stack hscope }

theorem Alike.otherChanges_of_ok (h : Alike line v w a b) {serial : Nat}
    {result : Except Fault ScopeStack}
    (hc : ∀ t, result = .ok t → a.stack.Changes serial t) (hs : serial ∉ v.seen ++ v.own) :
    Alike line v w (a.changeStack result).1 b := by
  cases result with
  | error f => exact h
  | ok t => exact h.otherChanges (hc t rfl) hs

theorem Alike.otherEnters (h : Alike line v w a b) (hl : l ≠ line) :
    Alike line v w (a.perform l .enter).1 b := by
  have hscope : ∀ n ∈ v.seen ++ v.own,
      (a.stack.enter (a.place l)).1.scope? n = a.stack.scope? n := by
    intro n hn
    rw [ScopeStack.scope?_enter, if_neg (Nat.ne_of_lt (h.stack.counts.lt_shared hn))]
  have hlen : a.stack.scopes.length ≤ (a.stack.enter (a.place l)).1.scopes.length := by
    show _ ≤ (a.stack.scopes ++ [_]).length
    rw [List.length_append]
    exact Nat.le_add_right _ _
  have hplace : (a.perform l .enter).1.place line = a.place line := place_setPlace_of_ne hl
  exact { h with
    tree := h.tree.perform l .enter
    stack := h.stack.frame hlen rfl hscope fun _ _ => rfl
    place := hplace ▸ h.place.frame h.stack hscope
    here := lt_length_perform h.here l .enter }

/-- Another line uses the guard of a scope that the line is not inside. -/
theorem Alike.otherExits (h : Alike line v w a b) (hl : l ≠ line) {serial : Nat}
    (hs : serial ∉ v.inside ++ v.own) : Alike line v w (a.perform l (.exit serial)).1 b := by
  have hscopes := ScopeStack.scopes_exit a.stack (a.place l) serial
  have hscope : ∀ n ∈ v.seen ++ v.own,
      (a.stack.exit (a.place l) serial).1.scope? n = a.stack.scope? n := by
    intro n _
    unfold ScopeStack.scope?
    rw [hscopes]
  have hentered : ∀ n ∈ v.inside ++ v.own,
      (a.stack.exit (a.place l) serial).1.isEntered n = a.stack.isEntered n := by
    intro n hn
    have hne : n ≠ serial := fun heq => hs (heq ▸ hn)
    have hseen : n ∈ v.seen ++ v.own :=
      List.mem_append.mpr ((List.mem_append.mp hn).imp_left (h.stack.inside n))
    rw [h.tree.tree.isEntered_exit (h.stack.counts.lt_shared hseen), bne_iff_ne.mpr hne, Bool.and_true]
  have hlen : a.stack.scopes.length ≤ (a.stack.exit (a.place l) serial).1.scopes.length :=
    Nat.le_of_eq (congrArg List.length hscopes.symm)
  have hplace : (a.perform l (.exit serial)).1.place line = a.place line := place_setPlace_of_ne hl
  exact { h with
    tree := h.tree.perform l (.exit serial)
    stack := h.stack.frame hlen (ScopeStack.matcher_exit ..) hscope hentered
    place := hplace ▸ h.place.frame h.stack hscope
    here := lt_length_perform h.here l (.exit serial) }

theorem Alike.otherBranches (h : Alike line v w a b) (l : Nat) (inherits : Bool) :
    Alike line v w (a.perform l (.branch inherits)).1 b := by
  have hplace : (a.perform l (.branch inherits)).1.place line = a.place line := place_append h.here
  exact { h with
    tree := h.tree.perform l (.branch inherits)
    place := hplace ▸ h.place
    here := lt_length_perform h.here l (.branch inherits) }

/-- What another line does that spares the line leaves both alike. -/
theorem Alike.other (h : Alike line v w a b) (hl : l ≠ line)
    (hs : a.Spares l (Sight.reach v w) action) : Alike line v w (a.perform l action).1 b := by
  cases action with
  | register => exact hs.elim
  | classify => exact hs.elim
  | configure => exact hs.elim
  | setStandardSource => exact hs.elim
  | builder entity => exact h.extends (Registry.extends_get a.registry entity) (.refl _)
  | enter => exact h.otherEnters hl
  | exit serial => exact h.otherExits hl hs
  | setAccessor ref name => exact h.otherChanges (ScopeStack.changes_setAccessor _ _ name) hs
  | addClearances ref dimension tokens =>
    exact h.otherChanges (ScopeStack.changes_addClearances _ _ dimension tokens) hs
  | addClearanceLists ref lists =>
    exact h.otherChanges (ScopeStack.changes_addClearanceLists _ lists _) hs
  | addPermissions ref tokens =>
    exact h.otherChanges_of_ok (fun t ht => ScopeStack.changes_addPermissions ht) hs
  | addDenied ref patterns =>
    exact h.otherChanges_of_ok (fun t ht => ScopeStack.changes_insertPermissions ht) hs
  | addSource s =>
    exact { h with
      tree := ⟨h.tree.tree, h.tree.placed⟩
      tables := h.tables.otherAdds s }
  | changeSource n change =>
    exact { h with
      tree := ⟨h.tree.tree, h.tree.placed⟩
      tables := h.tables.otherChanges hs change.apply }
  | ownRestriction source entity =>
    exact h.otherRequests l source fun r view => Registry.extends_ownRestriction r view entity
  | inclusiveRestriction source entity =>
    exact h.otherRequests l source fun r view => Registry.extends_inclusiveRestriction r view entity
  | filter source entity rows =>
    exact h.otherRequests l source fun r view => Registry.extends_inclusiveRestriction r view entity
  | clearances => exact h
  | accessor => exact h
  | isPermitted => exact h
  | branch inherits => exact h.otherBranches l inherits

end Access

end RowAccess
