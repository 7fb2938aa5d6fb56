import Mathlib.Data.List.Basic
import Mathlib.Tactic.Common
import RowAccess.Proofs.Access.Evolution

/-!
# Versions over a run

What the stack and the static tables report as their version stands for what they hold, over a whole run: two
looks at one of them that show the same version show the same tokens, whichever of the looks was first, on
whatever lines they were taken, and whatever was done between them.
-/

namespace RowAccess.Access

variable {a : Access}

theorem run_append (a : Access) (acts more : List (Nat × Action)) :
    (a.run (acts ++ more)).1 = ((a.run acts).1.run more).1 := by
  induction acts generalizing a with
  | nil => rfl
  | cons step rest ih => exact ih (a.perform step.1 step.2).1

theorem follows_run (a : Access) (acts : List (Nat × Action)) : Follows a (a.run acts).1 := by
  induction acts generalizing a with
  | nil => exact .refl a
  | cons step rest ih =>
    exact (follows_perform a step.1 step.2).trans (ih (a.perform step.1 step.2).1)

/-- A later moment of a run follows an earlier one. -/
theorem follows_take (a : Access) (acts : List (Nat × Action)) {i j : Nat} (h : i ≤ j) :
    Follows (a.run (acts.take i)).1 (a.run (acts.take j)).1 := by
  have hsplit := List.take_append_drop i (acts.take j)
  rw [List.take_take, Nat.min_eq_left h] at hsplit
  rw [← hsplit, run_append]
  exact follows_run _ _

/-- Looks at sources that the host did not choose the identity of, at any two moments of a run and on any two
lines, agree. -/
theorem agrees_take (a : Access) (acts : List (Nat × Action)) (i j line line' : Nat) (r r' : SourceRef)
    (h : ∀ u, ((a.run (acts.take i)).1.view line r).id ≠ .host u)
    (h' : ∀ u, ((a.run (acts.take j)).1.view line' r').id ≠ .host u) :
    ((a.run (acts.take i)).1.view line r).Agrees ((a.run (acts.take j)).1.view line' r') := by
  rcases Nat.le_total i j with hij | hji
  · exact (a.follows_take acts hij).agrees h
  · exact ((a.follows_take acts hji).agrees h').symm

theorem view_static {n generation : Nat} {t : TokenTable} (h : a.sources[n]? = some (.static generation t))
    (line : Nat) :
    a.view line (.made n) = ⟨.fresh n, some ⟨0, generation⟩, t.tokens⟩ := by
  rw [view_made_some h]
  rfl

/-- At any two moments of a run and on any two lines, equal versions of the stack stand for the same tokens in
every dimension, and so do equal versions of a static table. -/
theorem tokens_eq_of_version_eq (c : Catalog) (m : Matcher) (acts : List (Nat × Action))
    (i j line line' : Nat) :
    let a := ((separate c m).run (acts.take i)).1
    let b := ((separate c m).run (acts.take j)).1
    ((a.view line .stack).version = (b.view line' .stack).version →
      ∀ d, (a.view line .stack).tokens d = (b.view line' .stack).tokens d) ∧
    ∀ n g g' t t', a.sources[n]? = some (.static g t) → b.sources[n]? = some (.static g' t') →
      (a.view line (.made n)).version = (b.view line' (.made n)).version →
        ∀ d, (a.view line (.made n)).tokens d = (b.view line' (.made n)).tokens d := by
  intro a b
  constructor
  · intro heq d
    have hagree := (separate c m).agrees_take acts i j line line' .stack .stack
      (fun u hu => by cases hu) (fun u hu => by cases hu)
    exact congrFun (hagree _ rfl rfl heq.symm) d
  · intro n g g' t t' ha hb heq d
    have hva := view_static ha line
    have hvb := view_static hb line'
    have hagree := (separate c m).agrees_take acts i j line line' (.made n) (.made n)
      (fun u hu => by rw [hva] at hu; cases hu) (fun u hu => by rw [hvb] at hu; cases hu)
    refine congrFun (hagree ⟨0, g⟩ ?_ ?_ ?_) d
    · show (a.view line (.made n)).id = (b.view line' (.made n)).id
      rw [hva, hvb]
    · show (a.view line (.made n)).version = _
      rw [hva]
    · show (b.view line' (.made n)).version = _
      rw [← heq, hva]

/-- Tokens that are given to a scope and a table, by two lines, and then given again. -/
def givenAgain : List (Nat × Action) :=
  [(0, .addSource (.static 0 [])), (0, .enter), (0, .branch true),
    (0, .addClearances .current "region" ["EU"]), (0, .changeSource 0 (.add "region" "EU")),
    (1, .addClearances (.numbered 1) "region" ["EU"]), (1, .changeSource 0 (.add "region" "EU"))]

theorem tokens_eq_of_version_eq_givenAgain :
    let a := ((separate [] .standard).run (givenAgain.take 5)).1
    let b := ((separate [] .standard).run (givenAgain.take 7)).1
    ((a.view 0 .stack).version = (b.view 1 .stack).version ∧
      (a.view 0 .stack).tokens "region" = (b.view 1 .stack).tokens "region") ∧
    (a.view 0 (.made 0)).version = (b.view 1 (.made 0)).version ∧
      (a.view 0 (.made 0)).tokens "region" = (b.view 1 (.made 0)).tokens "region" := by
  have h := tokens_eq_of_version_eq [] .standard givenAgain 5 7 0 1
  exact ⟨⟨rfl, h.1 rfl "region"⟩, rfl,
    h.2 0 1 1 [("region", ["EU"])] [("region", ["EU"])] rfl rfl rfl "region"⟩

end RowAccess.Access
