import Mathlib.Data.List.Basic
import Mathlib.Tactic.Common
import RowAccess.Predicate.Held
import RowAccess.Proofs.Predicate.Truth

/-!
# What held tokens say of a value

`Token.truth` is the truth of held tokens for what a field holds, without a predicate in between: the
predicate that is made of them has this truth for every row.
-/

namespace RowAccess

/-- Whether a value equals the one that a text stands for. -/
def Kind.agrees (k : Kind) (v : Value) (text : String) : Bool :=
  match k.read? text with
  | .ok w => v.equals w
  | .error _ => false

namespace Token

/-- The texts of the values that tokens allow, or that they deny. -/
def named (negated : Bool) (tokens : List Token) : List String :=
  ((Predicate.namedValues tokens).filter (·.1 == negated)).map (·.2)

/-- The truth of held tokens for what a field holds. -/
def truth (k : Kind) (tokens : List Token) (found : Option Value) : Truth :=
  if tokens = [] ∨ .denyAll ∈ tokens then some false
  else if .allowAll ∈ tokens then some true
  else
    found.map fun v =>
      ((named false tokens).isEmpty || (named false tokens).any (k.agrees v)) &&
        !(named true tokens).any (k.agrees v)

theorem mem_namedValues {tokens : List Token} {negated : Bool} {text : String} :
    (negated, text) ∈ Predicate.namedValues tokens ↔
      (if negated then deny text else allow text) ∈ tokens := by
  unfold Predicate.namedValues
  rw [List.mem_filterMap]
  constructor
  · rintro ⟨t, ht, heq⟩
    cases t <;> simp [value?, isNegated] at heq <;> obtain ⟨rfl, rfl⟩ := heq <;> exact ht
  · intro h
    refine ⟨_, h, ?_⟩
    cases negated <;> rfl

@[simp]
theorem mem_named_false {tokens : List Token} {text : String} :
    text ∈ named false tokens ↔ allow text ∈ tokens := by
  have h := @mem_namedValues tokens false text
  simpa [named] using h

@[simp]
theorem mem_named_true {tokens : List Token} {text : String} :
    text ∈ named true tokens ↔ deny text ∈ tokens := by
  have h := @mem_namedValues tokens true text
  simpa [named] using h

/-- Tokens none of which is for all values name a value. -/
theorem named_ne_nil {tokens : List Token} (hne : tokens ≠ []) (hdeny : denyAll ∉ tokens)
    (hallow : allowAll ∉ tokens) : named false tokens ≠ [] ∨ named true tokens ≠ [] := by
  obtain ⟨t, ht⟩ := List.exists_mem_of_ne_nil tokens hne
  cases t with
  | allow text => exact .inl (List.ne_nil_of_mem (mem_named_false.mpr ht))
  | allowAll => exact absurd ht hallow
  | deny text => exact .inr (List.ne_nil_of_mem (mem_named_true.mpr ht))
  | denyAll => exact absurd ht hdeny

/-- Held tokens are true of what a field holds: of anything where all values are allowed, otherwise of a
value that equals an allowed one, if any is named, and no denied one. -/
structure Admit (k : Kind) (tokens : List Token) (found : Option Value) : Prop where
  held : tokens ≠ []
  undenied : denyAll ∉ tokens
  value : allowAll ∈ tokens ∨ ∃ v, found = some v ∧
    ((∃ text, allow text ∈ tokens) →
      ∃ text w, allow text ∈ tokens ∧ k.read? text = .ok w ∧ v.equals w = true) ∧
    ∀ text w, deny text ∈ tokens → k.read? text = .ok w → v.equals w = false

theorem agrees_iff {k : Kind} {v : Value} {text : String} :
    k.agrees v text = true ↔ ∃ w, k.read? text = .ok w ∧ v.equals w = true := by
  unfold Kind.agrees
  cases k.read? text <;> simp

theorem truth_iff {k : Kind} {tokens : List Token} {found : Option Value} :
    truth k tokens found = some true ↔ Admit k tokens found := by
  unfold truth
  by_cases hout : tokens = [] ∨ denyAll ∈ tokens
  · rw [if_pos hout]
    constructor
    · intro h
      cases h
    · intro h
      exact (hout.elim h.held h.undenied).elim
  · rw [if_neg hout]
    obtain ⟨hne, hdeny⟩ := not_or.mp hout
    by_cases hall : allowAll ∈ tokens
    · rw [if_pos hall]
      exact ⟨fun _ => ⟨hne, hdeny, .inl hall⟩, fun _ => rfl⟩
    · rw [if_neg hall]
      have hallowed : ∀ v, ((named false tokens).isEmpty || (named false tokens).any (k.agrees v)) =
          true ↔ ((∃ text, allow text ∈ tokens) →
            ∃ text w, allow text ∈ tokens ∧ k.read? text = .ok w ∧ v.equals w = true) := by
        intro v
        simp only [Bool.or_eq_true, List.isEmpty_iff, List.any_eq_true, mem_named_false, agrees_iff,
          List.eq_nil_iff_forall_not_mem]
        constructor
        · rintro (hnil | ⟨text, ht, w, hw⟩)
          · rintro ⟨text, ht⟩
            exact absurd ht (hnil text)
          · exact fun _ => ⟨text, w, ht, hw⟩
        · intro h
          by_cases hsome : ∃ text, allow text ∈ tokens
          · obtain ⟨text, w, ht, hw⟩ := h hsome
            exact .inr ⟨text, ht, w, hw⟩
          · exact .inl (not_exists.mp hsome)
      have hdenied : ∀ v, (!(named true tokens).any (k.agrees v)) = true ↔
          ∀ text w, deny text ∈ tokens → k.read? text = .ok w → v.equals w = false := by
        intro v
        simp only [Bool.not_eq_true', List.any_eq_false, mem_named_true, agrees_iff]
        constructor
        · intro h text w ht hw
          cases heq : v.equals w with
          | false => rfl
          | true => exact absurd ⟨w, hw, heq⟩ (h text ht)
        · rintro h text ht ⟨w, hw, heq⟩
          rw [h text w ht hw] at heq
          cases heq
      rw [Option.map_eq_some_iff]
      constructor
      · rintro ⟨v, hv, hboth⟩
        obtain ⟨ha, hd⟩ := Bool.and_eq_true_iff.mp hboth
        exact ⟨hne, hdeny, .inr ⟨v, hv, (hallowed v).mp ha, (hdenied v).mp hd⟩⟩
      · intro h
        obtain ⟨v, hv, ha, hd⟩ := h.value.resolve_left hall
        exact ⟨v, hv, Bool.and_eq_true_iff.mpr ⟨(hallowed v).mpr ha, (hdenied v).mpr hd⟩⟩

end Token

namespace Predicate

variable {path : FieldPath} {kind : Kind} {r : Row}

/-! ### Predicates from tokens -/

/-- Comparisons of one path with values, as alternatives to a predicate about what the path leads to. -/
theorem evaluate_alternatives {f : Value → Bool} :
    ∀ {values : List Value} {p : Predicate}, p.evaluate r = (path.resolve r).map f →
      ((values.map (equals path)).foldl or p).evaluate r =
        (path.resolve r).map fun v => f v || values.any (v.equals ·)
  | [], p, h => by simpa using h
  | w :: rest, p, h => by
      have hor : (or p (equals path w)).evaluate r =
          (path.resolve r).map fun v => f v || v.equals w := by
        simp only [evaluate, h]
        cases path.resolve r with
        | none => rfl
        | some v => cases hf : f v <;> cases hv : v.equals w <;> simp [Truth.or, hf, hv]
      rw [List.map_cons, List.foldl_cons, evaluate_alternatives hor]
      simp only [List.any_cons, Bool.or_assoc]

theorem evaluate_anyOf {values : List Value} {p : Predicate}
    (h : anyOf (values.map (equals path)) = some p) :
    p.evaluate r = (path.resolve r).map fun v => values.any (v.equals ·) := by
  cases values with
  | nil => cases h
  | cons w rest =>
    obtain rfl := Option.some.inj h
    exact evaluate_alternatives rfl

theorem anyOf_eq_none {ps : List Predicate} : anyOf ps = none ↔ ps = [] := by
  cases ps <;> simp [anyOf]

/-- One value at least is named: then the predicate compares what the path leads to. -/
theorem evaluate_allowedNotDenied {allowed denied : List Value} (h : allowed ≠ [] ∨ denied ≠ []) :
    (allowedNotDenied (anyOf (allowed.map (equals path))) (anyOf (denied.map (equals path)))).evaluate r =
      (path.resolve r).map fun v =>
        (allowed.isEmpty || allowed.any (v.equals ·)) && !denied.any (v.equals ·) := by
  cases ha : anyOf (allowed.map (equals path)) with
  | none =>
    obtain rfl : allowed = [] := by simpa using anyOf_eq_none.mp ha
    cases hd : anyOf (denied.map (equals path)) with
    | none =>
      obtain rfl : denied = [] := by simpa using anyOf_eq_none.mp hd
      exact absurd h (by simp)
    | some q =>
      simp only [allowedNotDenied, evaluate, evaluate_anyOf hd, Truth.not, Option.map_map]
      rfl
  | some p =>
    have hne : allowed.isEmpty = false := by
      cases allowed with
      | nil => cases ha
      | cons => rfl
    cases hd : anyOf (denied.map (equals path)) with
    | none =>
      obtain rfl : denied = [] := by simpa using anyOf_eq_none.mp hd
      simp [allowedNotDenied, evaluate_anyOf ha, hne]
    | some q =>
      simp only [allowedNotDenied, evaluate, evaluate_anyOf ha, evaluate_anyOf hd, hne]
      cases path.resolve r with
      | none => rfl
      | some v =>
        cases h₁ : allowed.any (v.equals ·) <;> cases h₂ : denied.any (v.equals ·) <;>
          simp [Truth.and, Truth.not, h₁, h₂]

/-- The comparisons of one side are those with the values that the named texts stand for. -/
theorem comparisonsOf_side {tokens : List Token} {found : List (Bool × Predicate)}
    (h : comparisonsOf path kind tokens = .ok found) (negated : Bool) :
    ∃ values : List Value,
      (found.filter (·.1 == negated)).map (·.2) = values.map (equals path) ∧
      values.isEmpty = (Token.named negated tokens).isEmpty ∧
      ∀ v, values.any (v.equals ·) = (Token.named negated tokens).any (kind.agrees v) := by
  unfold comparisonsOf at h
  unfold Token.named
  generalize namedValues tokens = names at h ⊢
  induction names generalizing found with
  | nil =>
    cases h
    exact ⟨[], rfl, rfl, fun _ => rfl⟩
  | cons n rest ih =>
    obtain ⟨side, text⟩ := n
    rw [List.mapM_cons] at h
    cases hw : kind.read? text with
    | error reason => simp [Kind.coerce, hw, bind, Except.bind, Except.mapError] at h
    | ok w =>
      simp only [Kind.coerce, hw, bind, Except.bind, Except.mapError, pure, Except.pure] at h
      split at h
      next => cases h
      next more hmore =>
        cases h
        obtain ⟨values, hside, hempty, hany⟩ := ih hmore
        by_cases hs : side = negated
        · subst hs
          refine ⟨w :: values, by simp [hside], by simp, fun v => ?_⟩
          have hagrees : kind.agrees v text = v.equals w := by simp [Kind.agrees, hw]
          simp [hany v, hagrees]
        · refine ⟨values, ?_, ?_, fun v => ?_⟩
          · simp [hs, hside]
          · simp [hs, hempty]
          · simp [hs, hany v]

/-- The predicate of held tokens is as true as they are of what the field holds. -/
theorem evaluate_ofTokens? {held : List String} {p : Predicate}
    (h : ofTokens? path kind held = .ok p) (r : Row) :
    p.evaluate r = Token.truth kind (held.map Token.parse) (path.resolve r) := by
  unfold ofTokens? at h
  unfold Token.truth
  generalize held.map Token.parse = tokens at h ⊢
  dsimp only at h
  by_cases hout : tokens = [] ∨ .denyAll ∈ tokens
  · rw [if_pos hout] at h ⊢
    cases h
    rfl
  · rw [if_neg hout] at h ⊢
    by_cases hall : .allowAll ∈ tokens
    · rw [if_pos hall] at h ⊢
      cases h
      rfl
    · rw [if_neg hall] at h ⊢
      cases hc : comparisonsOf path kind tokens with
      | error f => rw [hc] at h; cases h
      | ok found =>
        rw [hc] at h
        cases h
        obtain ⟨allowed, hallowed, haempty, haany⟩ := comparisonsOf_side hc false
        obtain ⟨denied, hdenied, hdempty, hdany⟩ := comparisonsOf_side hc true
        have hnamed : allowed ≠ [] ∨ denied ≠ [] := by
          rcases Token.named_ne_nil (not_or.mp hout).1 (not_or.mp hout).2 hall with hn | hn
          · refine .inl fun hnil => hn ?_
            rwa [hnil, List.isEmpty_nil, eq_comm, List.isEmpty_iff] at haempty
          · refine .inr fun hnil => hn ?_
            rwa [hnil, List.isEmpty_nil, eq_comm, List.isEmpty_iff] at hdempty
        rw [hallowed, hdenied, evaluate_allowedNotDenied hnamed]
        simp only [haempty, haany, hdany]

theorem admits_ofTokens? {held : List String} {p : Predicate}
    (h : ofTokens? path kind held = .ok p) (r : Row) :
    p.admits r = true ↔ Token.Admit kind (held.map Token.parse) (path.resolve r) := by
  rw [admits, beq_iff_eq, evaluate_ofTokens? h, Token.truth_iff]

end Predicate

end RowAccess
