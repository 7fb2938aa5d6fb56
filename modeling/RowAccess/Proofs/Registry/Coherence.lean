import Mathlib.Data.List.Basic
import Mathlib.Logic.Function.Basic
import Mathlib.Tactic.Common
import RowAccess.Proofs.Registry.OwnSlot

/-!
# Coherent registries

An inclusive restriction is kept for as long as the generations of its parts are the same, so what it
is worth depends on what those generations once were. A `Ledger` is the record of all builds: of each
type, generation and content. It is no part of a registry; a registry is `Coherent` with a ledger when
every slot holds what is on record for its generation and every inclusive slot was put together from
parts on record. A generation has one content for good, so parts with the same generations are the same.
-/

namespace RowAccess

open RowAccess.Builder (Resolved)

/-! ### Builds on record -/

structure Build where
  entity : String
  generation : Nat
  content : Option Predicate

/-- Builds of types that have come to some generations: each generation has one content, and none is
later than its type has come to. -/
structure Recorded (builds : List Build) (reached : String → Option Nat) : Prop where
  unique : ∀ {x y}, x ∈ builds → y ∈ builds → x.entity = y.entity → x.generation = y.generation →
    x.content = y.content
  bounded : ∀ {x}, x ∈ builds → ∃ g, reached x.entity = some g ∧ x.generation ≤ g

namespace Recorded

variable {builds : List Build} {reached : String → Option Nat} {entity : String} {g : Nat}

theorem nil (reached : String → Option Nat) : Recorded [] reached :=
  ⟨(absurd · List.not_mem_nil), (absurd · List.not_mem_nil)⟩

/-- Another type may come into being, and a generation may be reached without a build. -/
theorem mono {reached' : String → Option Nat} (h : Recorded builds reached)
    (hle : ∀ e g, reached e = some g → ∃ g', reached' e = some g' ∧ g ≤ g') :
    Recorded builds reached' where
  unique := h.unique
  bounded hx := by
    obtain ⟨g, hg, hxg⟩ := h.bounded hx
    obtain ⟨g', hg', hgg⟩ := hle _ g hg
    exact ⟨g', hg', Nat.le_trans hxg hgg⟩

/-- A build of the next generation goes on record. -/
theorem add (h : Recorded builds reached) (hg : reached entity = some g)
    (content : Option Predicate) :
    Recorded (⟨entity, g + 1, content⟩ :: builds)
      (Function.update reached entity (some (g + 1))) := by
  have hlater : ∀ x ∈ builds, x.entity = entity → x.generation ≠ g + 1 := by
    intro x hx he hgen
    obtain ⟨g', hg', hle⟩ := h.bounded hx
    rw [he, hg] at hg'
    obtain rfl := Option.some.inj hg'
    omega
  constructor
  · intro x y hx hy he hgen
    rcases List.mem_cons.mp hx with rfl | hx
    · rcases List.mem_cons.mp hy with rfl | hy
      · rfl
      · exact absurd hgen.symm (hlater y hy he.symm)
    · rcases List.mem_cons.mp hy with rfl | hy
      · exact absurd hgen (hlater x hx he)
      · exact h.unique hx hy he hgen
  · intro x hx
    rcases List.mem_cons.mp hx with rfl | hx
    · exact ⟨g + 1, Function.update_self .., Nat.le_refl _⟩
    · obtain ⟨g', hg', hle⟩ := h.bounded hx
      by_cases he : x.entity = entity
      · rw [he, hg] at hg'
        obtain rfl := Option.some.inj hg'
        exact ⟨g + 1, by rw [he, Function.update_self], by omega⟩
      · exact ⟨g', by rw [Function.update_of_ne he, hg'], hle⟩

/-- Builds of the same types and generations have the same contents. -/
theorem contents_eq (h : Recorded builds reached) :
    ∀ {xs ys : List Build}, (∀ x ∈ xs, x ∈ builds) → (∀ y ∈ ys, y ∈ builds) →
      xs.map Build.entity = ys.map Build.entity →
      xs.map Build.generation = ys.map Build.generation →
      xs.map Build.content = ys.map Build.content
  | [], [], _, _, _, _ => rfl
  | [], y :: ys, _, _, he, _ => by simp at he
  | x :: xs, [], _, _, he, _ => by simp at he
  | x :: xs, y :: ys, hx, hy, he, hg => by
      obtain ⟨hhead, htail⟩ := List.cons_eq_cons.mp he
      obtain ⟨hghead, hgtail⟩ := List.cons_eq_cons.mp hg
      have hrest := contents_eq h (fun z hz => hx z (List.mem_cons_of_mem _ hz))
        (fun z hz => hy z (List.mem_cons_of_mem _ hz)) htail hgtail
      rw [List.map_cons, List.map_cons, hrest,
        h.unique (hx x (by simp)) (hy y (by simp)) hhead hghead]

end Recorded

/-! ### Ledgers -/

/-- All builds of a registry: of own fields, and of types with their ancestors. -/
structure Ledger where
  own : List Build
  inclusive : List Build

namespace Ledger

def empty : Ledger := ⟨[], []⟩

structure Grows (l l' : Ledger) : Prop where
  own : l.own ⊆ l'.own
  inclusive : l.inclusive ⊆ l'.inclusive

theorem Grows.refl (l : Ledger) : Grows l l := ⟨List.Subset.refl _, List.Subset.refl _⟩

theorem Grows.trans {l l' l'' : Ledger} (h : Grows l l') (h' : Grows l' l'') : Grows l l'' :=
  ⟨List.Subset.trans h.own h'.own, List.Subset.trans h.inclusive h'.inclusive⟩

/-- A content that was put together from an own build and builds of all parents on record. -/
structure Composed (l : Ledger) (entity : String) (edges : List Edge) (s : InclusiveSlot)
    (content own : Option Predicate) (parents : List Build) : Prop where
  own_mem : ⟨entity, s.ownGeneration, own⟩ ∈ l.own
  parents_mem : ∀ p ∈ parents, p ∈ l.inclusive
  targets : parents.map Build.entity = edges.map Edge.target
  generations : parents.map Build.generation = s.parentGenerations
  content_eq : content = Facts.combine own ((edges.map Edge.name).zip (parents.map Build.content))

theorem Composed.grow {l l' : Ledger} {entity : String} {edges : List Edge} {s : InclusiveSlot}
    {content own : Option Predicate} {parents : List Build}
    (h : l.Composed entity edges s content own parents) (hl : l.Grows l') :
    l'.Composed entity edges s content own parents where
  own_mem := hl.own h.own_mem
  parents_mem p hp := hl.inclusive (h.parents_mem p hp)
  targets := h.targets
  generations := h.generations
  content_eq := h.content_eq

end Ledger

/-! ### Builders and registries -/

/-- A builder whose slots hold what is on record. -/
structure Builder.Sound (promise : Promise) (l : Ledger) (b : Builder) : Prop where
  valid : b.own.Valid promise b
  own : ∀ {x}, b.own.restriction = some x → ⟨b.entity, b.own.generation, x.content⟩ ∈ l.own
  inclusive : ∀ {x}, b.inclusive.restriction = some x →
    ⟨b.entity, b.inclusive.generation, x.content⟩ ∈ l.inclusive
  composed : ∀ {x}, b.inclusive.restriction = some x →
    ∃ own parents, l.Composed b.entity b.schema.edges b.inclusive x.content own parents

theorem Builder.Sound.grow {promise : Promise} {l l' : Ledger} {b : Builder}
    (h : b.Sound promise l) (hl : l.Grows l') : b.Sound promise l' where
  valid := h.valid
  own hx := hl.own (h.own hx)
  inclusive hx := hl.inclusive (h.inclusive hx)
  composed hx := by
    obtain ⟨own, parents, hc⟩ := h.composed hx
    exact ⟨own, parents, hc.grow hl⟩

/-- A builder that holds nothing is sound with any ledger. -/
theorem Builder.sound_of_none {promise : Promise} {l : Ledger} {b : Builder}
    (hown : b.own.restriction = none) (hinclusive : b.inclusive.restriction = none) :
    b.Sound promise l where
  valid := OwnSlot.valid_of_none hown
  own hx := by rw [hown] at hx; cases hx
  inclusive hx := by rw [hinclusive] at hx; cases hx
  composed hx := by rw [hinclusive] at hx; cases hx

namespace Registry

/-- The generation that a slot of each type's builder has come to. -/
def reached (r : Registry) (generation : Builder → Nat) (entity : String) : Option Nat :=
  (r.builder? entity).map generation

/-- A registry in which every slot holds what is on record. -/
structure Coherent (promise : Promise) (l : Ledger) (r : Registry) : Prop where
  sound : ∀ {entity b}, r.builder? entity = some b → b.Sound promise l
  own : Recorded l.own (r.reached fun b => b.own.generation)
  inclusive : Recorded l.inclusive (r.reached fun b => b.inclusive.generation)

variable {promise : Promise} {l l' : Ledger} {r : Registry} {b c : Builder}

theorem reached_put (h : r.builder? b.entity = some c) (generation : Builder → Nat)
    (serial : Nat) :
    ({ r with serial }.put b).reached generation =
      Function.update (r.reached generation) b.entity (some (generation b)) := by
  have hlook := builder?_put { r with serial } b
  funext e
  unfold reached
  rw [hlook]
  by_cases he : e = b.entity
  · subst he
    rw [if_pos rfl, Function.update_self]
    exact congrArg (Option.map _) (congrArg (Option.map _) h)
  · rw [if_neg he, Function.update_of_ne he]
    rfl

/-- A builder that is sound with a longer ledger is put back. -/
theorem Coherent.put (h : Coherent promise l r) (hc : r.builder? b.entity = some c)
    (hl : l.Grows l') (hb : b.Sound promise l')
    (hown : Recorded l'.own
      (Function.update (r.reached fun b => b.own.generation) b.entity (some b.own.generation)))
    (hinclusive : Recorded l'.inclusive
      (Function.update (r.reached fun b => b.inclusive.generation) b.entity
        (some b.inclusive.generation)))
    (serial : Nat) : Coherent promise l' ({ r with serial }.put b) := by
  refine ⟨?_, ?_, ?_⟩
  · intro e d hd
    have hlook := builder?_put { r with serial } b e
    rw [hlook] at hd
    split at hd
    · obtain ⟨-, -, rfl⟩ := Option.map_eq_some_iff.mp hd
      exact hb
    · exact (h.sound hd).grow hl
  · rw [reached_put hc]
    exact hown
  · rw [reached_put hc]
    exact hinclusive

end Registry

end RowAccess
