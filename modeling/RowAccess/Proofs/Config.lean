import Mathlib.Data.List.Basic
import Mathlib.Tactic.Common
import RowAccess.Config
import RowAccess.Proofs.NameMap
import RowAccess.Proofs.Token

/-!
# Configurations over one another

A check passes where no name is blank. A configuration that is laid over another one says what both say: the check of
it passes where theirs do, and a list of tokens that both have is read as the first and the second behind it.
-/

namespace RowAccess

open Text (isBlankText)

/-- A piece of text that may be wanting, read as a list of tokens. -/
def tokensOf (list : Option String) : List String := list.elim [] splitTokenList

theorem tokensOf_joinTokens (tokens : String) (existing : Option String) :
    tokensOf (some (Config.joinTokens tokens existing)) = tokensOf existing ++ tokensOf (some tokens) := by
  cases existing with
  | none => rfl
  | some existing => exact splitTokenList_append existing tokens

namespace Config

variable {a b c : Config} {d : String}

/-! ### What a check asks for -/

/-- A configuration without a blank name. -/
structure Worded (c : Config) : Prop where
  accessor : c.accessor.any isBlankText = false
  dimensions : ∀ d ∈ c.clearances.names, isBlankText d = false
  permissions : ∀ token ∈ c.permissions, bare token ≠ []
  classifications : ∀ k ∈ c.classifications, ∀ part ∈ k.named, isBlankText part.2 = false

theorem blankParts_eq_nil {cs : List Classification} :
    blankParts cs = [] ↔ ∀ k ∈ cs, ∀ part ∈ k.named, isBlankText part.2 = false := by
  have hplaces : (∀ k ∈ cs, ∀ part ∈ k.named, isBlankText part.2 = false) ↔
      ∀ e ∈ cs.zipIdx, ∀ part ∈ e.1.named, isBlankText part.2 = false := by
    conv_lhs => rw [← List.zipIdx_map_fst 0 cs]
    exact List.forall_mem_map
  unfold blankParts
  rw [hplaces, List.flatMap_eq_nil_iff]
  refine forall₂_congr fun e _ => ?_
  rw [List.map_eq_nil_iff, List.filter_eq_nil_iff]
  exact forall₂_congr fun part _ => Bool.eq_false_iff.symm

theorem check_eq_ok : c.check = .ok () ↔ c.Worded := by
  constructor
  · intro h
    unfold check at h
    dsimp only at h
    split at h
    · cases h
    next haccessor =>
      split at h
      · cases h
      next hdimensions =>
        split at h
        · cases h
        next hpermissions =>
          split at h
          · cases h
          next hparts =>
            refine ⟨Bool.eq_false_iff.mpr haccessor, fun d hd => ?_, fun token ht hbare => ?_,
              blankParts_eq_nil.mp hparts⟩
            · exact Bool.eq_false_iff.mpr fun hblank => hdimensions (List.any_eq_true.mpr ⟨d, hd, hblank⟩)
            · exact hpermissions (List.any_eq_true.mpr ⟨token, ht, List.isEmpty_iff.mpr hbare⟩)
  · intro h
    have hdimensions : c.clearances.names.any isBlankText = false :=
      List.any_eq_false.mpr fun d hd => Bool.eq_false_iff.mp (h.dimensions d hd)
    have hpermissions : c.permissions.any (fun token => (bare token).isEmpty) = false :=
      List.any_eq_false.mpr fun token ht hbare => h.permissions token ht (List.isEmpty_iff.mp hbare)
    unfold check
    simp only [h.accessor, hdimensions, hpermissions, blankParts_eq_nil.mpr h.classifications, Bool.false_eq_true,
      if_false]

/-! ### Lists of tokens by dimension -/

/-- The lists of both configurations, dimension by dimension. -/
theorem get?_foldl_put : ∀ {entries : List (String × String)}, Ascending entries → ∀ (m : NameMap) (d : String),
    (entries.foldl (fun m e => m.put e.1 (joinTokens e.2)) m).get? d =
      (entries.lookup d).elim (m.get? d) fun tokens => some (joinTokens tokens (m.get? d))
  | [], _, _, _ => rfl
  | e :: rest, h, m, d => by
      rw [List.foldl_cons, get?_foldl_put (List.pairwise_cons.mp h).2, NameMap.get?_put, lookup_cons_ite]
      split
      next hd =>
        subst hd
        rw [h.lookup_rest]
        rfl
      next => rfl

theorem get?_overlay (a b : Config) (d : String) :
    (a.overlay b).clearances.get? d =
      (b.clearances.get? d).elim (a.clearances.get? d) fun tokens => some (joinTokens tokens (a.clearances.get? d)) :=
  get?_foldl_put b.clearances.ascending a.clearances d

theorem mem_names_overlay :
    d ∈ (a.overlay b).clearances.names ↔ d ∈ a.clearances.names ∨ d ∈ b.clearances.names := by
  rw [NameMap.mem_names, NameMap.mem_names, NameMap.mem_names, get?_overlay]
  cases b.clearances.get? d with
  | none => exact (or_iff_left Bool.false_ne_true).symm
  | some _ => exact iff_of_true rfl (.inr rfl)

/-- A list of tokens that is laid over another one is read behind it. -/
theorem tokensOf_overlay (a b : Config) (d : String) :
    tokensOf ((a.overlay b).clearances.get? d) =
      tokensOf (a.clearances.get? d) ++ tokensOf (b.clearances.get? d) := by
  rw [get?_overlay]
  cases b.clearances.get? d with
  | none => exact (List.append_nil _).symm
  | some tokens => exact tokensOf_joinTokens tokens _

/-! ### The check -/

theorem Worded.overlay (ha : a.Worded) (hb : b.Worded) : (a.overlay b).Worded where
  accessor := by
    have hover := hb.accessor
    show (b.accessor.or a.accessor).any isBlankText = false
    cases h : b.accessor with
    | none => exact ha.accessor
    | some name =>
      rw [h] at hover
      exact hover
  dimensions d hd := (mem_names_overlay.mp hd).elim (ha.dimensions d) (hb.dimensions d)
  permissions token ht := (List.mem_append.mp ht).elim (ha.permissions token) (hb.permissions token)
  classifications k hk := (List.mem_append.mp hk).elim (ha.classifications k) (hb.classifications k)

end Config

end RowAccess
