import Mathlib.Data.List.Basic
import Mathlib.Tactic.Common
import RowAccess.Proofs.Access.Grant
import RowAccess.Proofs.Scope.Permission

/-!
# Permissions over a run

A run inserts patterns into scopes, by calls that insert all of theirs or none. After it every scope holds exactly
what was inserted into it, so that the permissions of a scope are told by the set of all insertions, and a denial
that was inserted once is held for good.
-/

namespace RowAccess

namespace ScopeStack

variable {t : ScopeStack} {n : Nat} {i : Insertion} {given given' : List Insertion} {name : String}

/-! ### Permissions of a scope -/

/-- What a scope of a lineage holds is held under its number. -/
theorem Tree.holds_of_mem (h : t.Tree) {s : Scope} (hs : s ∈ t.lineage n) {denied : Bool} {p : String}
    (hp : p ∈ s.patterns denied) : t.Holds ⟨s.serial, denied, p⟩ := by
  unfold Holds
  rwa [scope_of_scope? (h.scope?_of_mem_lineage hs)]

/-- What is held under a number of a lineage is held by the scope with that number. -/
theorem Tree.exists_of_holds (h : t.Tree) (hi : t.Holds i) (hscope : i.scope ∈ (t.lineage n).map Scope.serial) :
    ∃ s ∈ t.lineage n, i.pattern ∈ s.patterns i.denied := by
  obtain ⟨s, hs, hserial⟩ := List.mem_map.mp hscope
  unfold Holds at hi
  rw [← hserial, scope_of_scope? (h.scope?_of_mem_lineage hs)] at hi
  exact ⟨s, hs, hi⟩

/-- Insertions permit a name in a lineage: one of them grants it there, and none denies it. -/
def Permit (m : Matcher) (given : List Insertion) (lineage : List Nat) (name : String) : Prop :=
  (∃ i ∈ given, i.denied = false ∧ i.scope ∈ lineage ∧ m.isMatch i.pattern name = true) ∧
    ∀ i ∈ given, i.denied = true → i.scope ∈ lineage → m.isMatch i.pattern name = false

/-- Neither the order of insertions nor their repetition counts. -/
theorem Permit.congr {m : Matcher} {lineage : List Nat} (h : ∀ i, i ∈ given ↔ i ∈ given') :
    Permit m given lineage name ↔ Permit m given' lineage name := by
  unfold Permit
  simp only [h]

/-- A name is permitted in a scope as the insertions into the scopes of its lineage permit it. -/
theorem Tree.isPermitted_iff (h : t.Tree) (hgiven : ∀ i, t.Holds i ↔ i ∈ given) :
    t.isPermitted n name = true ↔ Permit t.matcher given ((t.lineage n).map Scope.serial) name := by
  refine Scope.isPermitted_iff.trans (and_congr ⟨?_, ?_⟩ ⟨?_, ?_⟩)
  · rintro ⟨s, hs, p, hp, hmatch⟩
    have hheld : t.Holds ⟨s.serial, false, p⟩ := h.holds_of_mem hs hp
    exact ⟨_, (hgiven _).mp hheld, rfl, List.mem_map_of_mem hs, hmatch⟩
  · rintro ⟨i, hi, hgranted, hscope, hmatch⟩
    obtain ⟨s, hs, hp⟩ := h.exists_of_holds ((hgiven i).mpr hi) hscope
    rw [hgranted] at hp
    exact ⟨s, hs, i.pattern, hp, hmatch⟩
  · intro hnone i hi hdenied hscope
    obtain ⟨s, hs, hp⟩ := h.exists_of_holds ((hgiven i).mpr hi) hscope
    rw [hdenied] at hp
    exact hnone s hs i.pattern hp
  · intro hnone s hs p hp
    have hheld : t.Holds ⟨s.serial, true, p⟩ := h.holds_of_mem hs hp
    exact hnone ⟨s.serial, true, p⟩ ((hgiven _).mp hheld) rfl (List.mem_map_of_mem hs)

/-- A denial that is held refuses what it matches, in its own scope and in all scopes within. -/
theorem Tree.refused_of_holds (h : t.Tree) (hi : t.Holds i) (hdenied : i.denied = true)
    (hmatch : t.matcher.isMatch i.pattern name = true)
    (hscope : n = i.scope ∨ i.scope ∈ (t.lineage n).map Scope.serial) : t.isPermitted n name = false := by
  have hin : i.scope ∈ (t.lineage n).map Scope.serial := by
    rcases hscope with rfl | hscope
    · obtain ⟨s, hs⟩ := scope?_of_holds hi
      exact h.self_mem_lineage hs
    · exact hscope
  obtain ⟨s, hs, hp⟩ := h.exists_of_holds hi hin
  rw [hdenied] at hp
  refine Bool.eq_false_iff.mpr fun hpermitted => ?_
  have hdiffers := (Scope.isPermitted_iff.mp hpermitted).2 s hs i.pattern hp
  rw [hmatch] at hdiffers
  cases hdiffers

end ScopeStack

namespace Access

open ScopeStack (Gives Permit)

variable {a : Access} {line : Nat} {action : Action}

/-! ### What a run inserts -/

/-- What an action of a line inserts. -/
def insertions (a : Access) (line : Nat) : Action → List Insertion
  | .addPermissions ref tokens =>
      a.stack.taken (a.resolveScope line ref) (tokens.map (.ofToken (a.resolveScope line ref)))
  | .addDenied ref patterns =>
      a.stack.taken (a.resolveScope line ref) (patterns.map (⟨a.resolveScope line ref, true, ·⟩))
  | .configure c =>
      c.check.toOption.elim [] fun _ =>
        a.stack.taken Scope.rootSerial (c.permissions.map (.ofToken Scope.rootSerial))
  | _ => []

/-- What the actions of a run insert, one after another. -/
def insertionsIn (a : Access) : List (Nat × Action) → List Insertion
  | [] => []
  | (line, action) :: rest => a.insertions line action ++ insertionsIn (a.perform line action).1 rest

theorem gives_named (a : Access) (c : Config) : Gives a.stack (a.named c) [] := by
  unfold named
  cases c.accessor with
  | none => exact .refl _
  | some name => exact ScopeStack.gives_setAccessor a.stack Scope.rootSerial name

theorem gives_cleared (a : Access) (c : Config) : Gives a.stack (a.cleared c) [] :=
  (a.gives_named c).trans (ScopeStack.gives_addClearanceLists Scope.rootSerial _ _)

/-- A configuration that passes its check inserts its permissions into the root, whatever becomes of the rest. -/
theorem gives_configured (a : Access) (c : Config) :
    Gives a.stack (((a.cleared c).addPermissions Scope.rootSerial c.permissions).toOption.getD (a.cleared c))
      (a.stack.taken Scope.rootSerial (c.permissions.map (.ofToken Scope.rootSerial))) := by
  obtain ⟨hlength, hmatcher, -⟩ := (a.changes_cleared c).frame
  have htaken : ∀ n l, (a.cleared c).taken n l = a.stack.taken n l := by
    intro n l
    unfold ScopeStack.taken
    rw [hlength, hmatcher]
  rw [← htaken]
  exact (a.gives_cleared c).trans
    (ScopeStack.gives_addPermissions (a.cleared c) Scope.rootSerial c.permissions)

theorem gives_perform (a : Access) (line : Nat) (action : Action) :
    Gives a.stack (a.perform line action).1.stack (a.insertions line action) := by
  rw [perform_stack]
  cases action with
  | enter => exact ScopeStack.gives_enter a.stack (a.place line)
  | exit serial => exact ScopeStack.gives_exit a.stack (a.place line) serial
  | setAccessor ref name => exact ScopeStack.gives_setAccessor a.stack (a.resolveScope line ref) name
  | addClearances ref dimension tokens =>
    exact ScopeStack.gives_addClearances a.stack (a.resolveScope line ref) dimension tokens
  | addClearanceLists ref lists =>
    exact ScopeStack.gives_addClearanceLists (a.resolveScope line ref) lists a.stack
  | addPermissions ref tokens => exact ScopeStack.gives_addPermissions a.stack (a.resolveScope line ref) tokens
  | addDenied ref patterns => exact ScopeStack.gives_addDenied a.stack (a.resolveScope line ref) patterns
  | configure c =>
    show Gives a.stack (c.check.toOption.elim a.stack _) (c.check.toOption.elim [] _)
    cases c.check.toOption with
    | none => exact .refl a.stack
    | some _ => exact gives_configured a c
  | _ => exact .refl a.stack

theorem gives_run (acts : List (Nat × Action)) :
    ∀ a : Access, Gives a.stack (a.run acts).1.stack (a.insertionsIn acts) := by
  induction acts with
  | nil => exact fun a => .refl _
  | cons step rest ih => exact fun a => (gives_perform a step.1 step.2).trans (ih _)

/-- After a run every scope holds what was inserted into it, and nothing else. -/
theorem holds_run (c : Catalog) (m : Matcher) (acts : List (Nat × Action)) (i : Insertion) :
    ((separate c m).run acts).1.stack.Holds i ↔ i ∈ (separate c m).insertionsIn acts := by
  rw [(gives_run acts (separate c m)).holds]
  exact or_iff_right (ScopeStack.not_holds_new m i)

/-- In every state that a run comes to: a name is permitted in a scope exactly if a granted pattern of its lineage
matches it and no denied one does; scopes hold what was inserted into them, so that this is told by the insertions
of the run, in any order and any number; and a denial that was inserted refuses the names that it matches, in its
scope and in all scopes within, at all times afterwards. -/
theorem permission_decided (c : Catalog) (m : Matcher) (acts : List (Nat × Action)) (n : Nat) (name : String) :
    let a := ((separate c m).run acts).1
    let given := (separate c m).insertionsIn acts
    (a.stack.isPermitted n name = true ↔
      (∃ s ∈ a.stack.lineage n, ∃ p ∈ s.granted, m.isMatch p name = true) ∧
        ∀ s ∈ a.stack.lineage n, ∀ p ∈ s.denied, m.isMatch p name = false) ∧
    (∀ i, a.stack.Holds i ↔ i ∈ given) ∧
    (a.stack.isPermitted n name = true ↔ Permit m given ((a.stack.lineage n).map Scope.serial) name) ∧
    (∀ acts', let b := ((separate c m).run acts').1
      (b.stack.lineage n).map Scope.serial = (a.stack.lineage n).map Scope.serial →
      (∀ i, i ∈ (separate c m).insertionsIn acts' ↔ i ∈ given) →
      b.stack.isPermitted n name = a.stack.isPermitted n name) ∧
    ∀ i ∈ given, i.denied = true → m.isMatch i.pattern name = true →
      ∀ more k, let b := (a.run more).1
        k = i.scope ∨ i.scope ∈ (b.stack.lineage k).map Scope.serial → b.stack.isPermitted k name = false := by
  intro a given
  have hmatcher : ∀ acts', ((separate c m).run acts').1.stack.matcher = m :=
    fun acts' => (gives_run acts' (separate c m)).matcher
  have hpermit : ∀ acts', ((separate c m).run acts').1.stack.isPermitted n name = true ↔
      Permit m ((separate c m).insertionsIn acts')
        ((((separate c m).run acts').1.stack.lineage n).map Scope.serial) name := by
    intro acts'
    have ht : ((separate c m).run acts').1.InTree := (inTree_separate c m).run acts'
    rw [ht.tree.isPermitted_iff (holds_run c m acts'), hmatcher acts']
  have ha : a.stack.matcher = m := hmatcher acts
  refine ⟨?_, holds_run c m acts, hpermit acts, ?_, ?_⟩
  · unfold ScopeStack.isPermitted
    rw [ha]
    exact Scope.isPermitted_iff
  · intro acts' b hlineage hsame
    rw [Bool.eq_iff_iff]
    refine (hpermit acts').trans (Iff.trans ?_ (hpermit acts).symm)
    rw [hlineage]
    exact Permit.congr hsame
  · intro i hi hdenied hmatch more k b hscope
    have ht : b.InTree := ((inTree_separate c m).run acts).run more
    have hgives : Gives a.stack b.stack (a.insertionsIn more) := gives_run more a
    have hheld : a.stack.Holds i := (holds_run c m acts i).mpr hi
    refine ht.tree.refused_of_holds ((hgives.holds i).mpr (.inl hheld)) hdenied ?_ hscope
    rw [hgives.matcher, ha]
    exact hmatch

/-- A scope is entered in which all may be read but the salary. -/
def allButSalary : List (Nat × Action) :=
  [(0, .enter), (0, .addPermissions .current ["read-*", "!read-salary"])]

/-- The same, where the salary is denied first, and twice. -/
def salaryDeniedFirst : List (Nat × Action) :=
  [(0, .enter), (0, .addDenied .current ["read-salary"]),
    (0, .addPermissions .current ["!read-salary", "read-*"])]

/-- All is granted in the root, and a scope is entered. -/
def allGranted : List (Nat × Action) := [(0, .addPermissions (.numbered 0) ["*"]), (0, .enter)]

theorem permission_decided_salary :
    let a := ((separate [] .glob).run allButSalary).1
    let b := ((separate [] .glob).run salaryDeniedFirst).1
    b.stack.isPermitted 1 "read-salary" = a.stack.isPermitted 1 "read-salary" ∧
      (a.run allGranted).1.stack.isPermitted 2 "read-salary" = false := by
  intro a b
  have hgiven : (separate [] .glob).insertionsIn allButSalary =
      [⟨1, false, "read-*"⟩, ⟨1, true, "read-salary"⟩] := by decide +kernel
  have hgiven' : (separate [] .glob).insertionsIn salaryDeniedFirst =
      [⟨1, true, "read-salary"⟩, ⟨1, true, "read-salary"⟩, ⟨1, false, "read-*"⟩] := by decide +kernel
  obtain ⟨-, -, -, hsame, hrefused⟩ := permission_decided [] .glob allButSalary 1 "read-salary"
  refine ⟨hsame salaryDeniedFirst (by decide +kernel) fun i => ?_,
    hrefused ⟨1, true, "read-salary"⟩ ?_ rfl (by decide +kernel) allGranted 2 (.inr (by decide +kernel))⟩
  · rw [hgiven, hgiven']
    simp only [List.mem_cons, List.not_mem_nil, or_false, or_self_left]
    exact or_comm
  · rw [hgiven]
    exact List.mem_cons_of_mem _ List.mem_cons_self

end Access

end RowAccess
