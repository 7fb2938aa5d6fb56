import Mathlib.Data.List.Basic
import Mathlib.Tactic.Common
import RowAccess.Proofs.Access.Admission
import RowAccess.Proofs.Predicate.OneMore

/-!
# Rows that come and go with a token

Two inclusive restrictions of one type make the same demands on rows, each under the tokens that it was built
from. If these differ in one token only, every demand changes the same way: a further denial admits no further
rows, and a further allowance keeps the rows that were admitted, unless only denials were held.
-/

namespace RowAccess

open RowAccess.Facts (Meets Means)

variable {held more : String → List String} {dimension token : String} {edges : List String}
  {c : Classified} {r : Row}

/-- Restrictions with the same demands: one admits all rows of the other if each demand does. -/
theorem Facts.Means.admits_mono {content content' : Option Predicate} {demands : Facts.Demands}
    (h : Means held content demands) (h' : Means more content' demands)
    (hmeets : ∀ edges c r, Meets held edges c r → Meets more edges c r)
    (hr : content.all (·.admits r) = true) : content'.all (·.admits r) = true := by
  rw [h'.admits]
  intro edges c hd
  exact hmeets edges c r ((h.admits r).mp hr edges c hd)

/-! ### One demand -/

/-- Demands in other dimensions do not change. -/
theorem OneMore.meets_iff_of_ne (h : OneMore held more dimension token) (hc : c.dimension ≠ dimension) :
    Meets more edges c r ↔ Meets held edges c r := by
  unfold Facts.Meets
  rw [h.elsewhere c.dimension hc]

theorem OneMore.meets_of_denial (h : OneMore held more dimension token)
    (ht : (Token.parse token).isNegated = true) (hheld : held dimension ≠ [])
    (hm : Meets more edges c r) : Meets held edges c r := by
  by_cases hc : c.dimension = dimension
  · subst hc
    have hne : (held c.dimension).map Token.parse ≠ [] := by simpa using hheld
    exact Token.Admit.of_denial hm h.extra ht hne
  · exact (h.meets_iff_of_ne hc).mp hm

theorem OneMore.meets_of_allowance (h : OneMore held more dimension token)
    (ht : (Token.parse token).isNegated = false)
    (hheld : held dimension = [] ∨ ∃ u ∈ held dimension, (Token.parse u).isNegated = false)
    (hm : Meets held edges c r) : Meets more edges c r := by
  by_cases hc : c.dimension = dimension
  · subst hc
    rcases hheld with hnone | ⟨u, hu, hsign⟩
    · -- Without a token nothing was admitted.
      have hne := hm.held
      rw [hnone] at hne
      exact absurd rfl hne
    · exact Token.Admit.of_allowance hm h.extra ht (List.mem_map_of_mem hu) hsign
  · exact (h.meets_iff_of_ne hc).mpr hm

namespace Access

/-- An inclusive restriction that was built means the demands at the ends of all chains from its type. -/
theorem means_inclusiveRestriction {cat : Catalog} {m : Matcher} {acts : List (Nat × Action)} {line : Nat}
    {source : Option SourceRef} {entity : String} {s : SourceRef} {x : Restriction}
    (h : Faithful ((separate cat m).observed (acts ++ [(line, .inclusiveRestriction source entity)])))
    (hs : ((separate cat m).run acts).1.sourceOr source = .ok s)
    (hx : (((separate cat m).run acts).1.inclusiveRestriction line source entity).2 = .ok x) :
    Means (((separate cat m).run acts).1.view line s).tokens x.content
      (Facts.reached ((separate cat m).run acts).1.registry.facts [] entity) := by
  obtain ⟨promise, hcoherent, hk⟩ := coherent_at_request cat m acts line source entity h
  have hcontent := inclusiveRestriction_content hcoherent hk entity
  rw [hx] at hcontent
  unfold inclusiveMeaning at hcontent
  rw [hs] at hcontent
  exact Registry.means_inclusive hcontent.symm

/-- Two inclusive restrictions of a type, built after any two runs with faithful sources where the same is known
of all types, under tables of which the second holds one token more: if that is a denial and something was held
in its dimension, the second admits no row that the first does not; if it is an allowance, and in its dimension
nothing was held or an allowance was, the second admits every row that the first does. -/
theorem admits_of_one_more (cat : Catalog) (m : Matcher) (acts acts' : List (Nat × Action)) (line line' : Nat)
    (source source' : Option SourceRef) (s s' : SourceRef) (entity dimension token : String)
    (x x' : Restriction) :
    let a := ((separate cat m).run acts).1
    let b := ((separate cat m).run acts').1
    let held := (a.view line s).tokens
    Faithful ((separate cat m).observed (acts ++ [(line, .inclusiveRestriction source entity)])) →
      Faithful ((separate cat m).observed (acts' ++ [(line', .inclusiveRestriction source' entity)])) →
      a.sourceOr source = .ok s → b.sourceOr source' = .ok s' →
      (a.inclusiveRestriction line source entity).2 = .ok x →
      (b.inclusiveRestriction line' source' entity).2 = .ok x' →
      b.registry.facts = a.registry.facts →
      OneMore held (b.view line' s').tokens dimension token →
      ((Token.parse token).isNegated = true → held dimension ≠ [] →
        ∀ r, x'.admits r = true → x.admits r = true) ∧
      ((Token.parse token).isNegated = false →
        (held dimension = [] ∨ ∃ u ∈ held dimension, (Token.parse u).isNegated = false) →
          ∀ r, x.admits r = true → x'.admits r = true) := by
  intro a b held h h' hs hs' hx hx' hfacts hmore
  have hmeans := means_inclusiveRestriction h hs hx
  have hmeans' := means_inclusiveRestriction h' hs' hx'
  rw [show ((separate cat m).run acts').1.registry.facts = _ from hfacts] at hmeans'
  constructor
  · intro ht hheld r
    rw [Restriction.admits_eq, Restriction.admits_eq]
    exact hmeans'.admits_mono hmeans fun edges c r => hmore.meets_of_denial ht hheld
  · intro ht hheld r
    rw [Restriction.admits_eq, Restriction.admits_eq]
    exact hmeans.admits_mono hmeans' fun edges c r => hmore.meets_of_allowance ht hheld

/-- A region; the region with another one denied; the region with another one allowed. -/
def regionTables : List TokenTable :=
  [[("region", ["EU"])], [("region", ["!US", "EU"])], [("region", ["EU", "FR"])]]

/-- A source of each table. -/
def regions : List (Nat × Action) := regionTables.map fun t => (0, .addSource (.static 0 t))

/-- A request for orders looks at the table that it names. -/
theorem faithful_regions {n : Nat} (hn : n < regionTables.length) :
    Faithful ((separate orders .standard).observed
      (regions ++ [(0, .inclusiveRestriction (some (.made n)) "orders")])) := by
  have hlook : (separate orders .standard).observed
      (regions ++ [(0, .inclusiveRestriction (some (.made n)) "orders")]) =
      [(n, Source.static 0 regionTables[n])].map fun x => x.2.view x.1 := by
    match n, hn with
    | 0, _ => rfl
    | 1, _ => rfl
    | 2, _ => rfl
  rw [hlook]
  refine faithful_of_tables (fun x hx => ?_) fun x hx => ?_
  · rw [List.mem_singleton.mp hx]
    rfl
  · have hfits : ∀ t ∈ regionTables, ∀ e ∈ t, Fingerprint.FitsTokens e.2 := by decide
    rw [List.mem_singleton.mp hx]
    exact hfits _ (List.getElem_mem hn)

theorem oneMore_region (before after : List String) (token : String) :
    OneMore (TokenTable.tokens [("region", before ++ after)])
      (TokenTable.tokens [("region", before ++ token :: after)]) "region" token := by
  refine ⟨fun d hd => ?_, before, after, rfl, rfl⟩
  simp only [TokenTable.tokens_cons, if_neg hd, TokenTable.tokens_nil]

theorem admits_of_one_more_regions :
    let a := ((separate orders .standard).run regions).1
    ∃ x y z, (a.inclusiveRestriction 0 (some (.made 0)) "orders").2 = .ok x ∧
      (a.inclusiveRestriction 0 (some (.made 1)) "orders").2 = .ok y ∧
      (a.inclusiveRestriction 0 (some (.made 2)) "orders").2 = .ok z ∧
      (∀ r, y.admits r = true → x.admits r = true) ∧ ∀ r, x.admits r = true → z.admits r = true := by
  have hmore := admits_of_one_more orders .standard regions regions 0 0 (some (.made 0))
  have hdenied := oneMore_region [] ["EU"] "!US"
  have hallowed := oneMore_region ["EU"] [] "FR"
  refine ⟨_, _, _, rfl, rfl, rfl, ?_, ?_⟩
  · exact (hmore (some (.made 1)) (.made 0) (.made 1) "orders" "region" "!US" _ _
      (faithful_regions (by decide)) (faithful_regions (by decide)) rfl rfl rfl rfl rfl hdenied).1
      (by decide) (by decide)
  · exact (hmore (some (.made 2)) (.made 0) (.made 2) "orders" "region" "FR" _ _
      (faithful_regions (by decide)) (faithful_regions (by decide)) rfl rfl rfl rfl rfl hallowed).2
      (by decide) (.inr ⟨"EU", by decide, by decide⟩)

end Access

end RowAccess
