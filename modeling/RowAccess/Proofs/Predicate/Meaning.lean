import Mathlib.Data.List.Basic
import Mathlib.Tactic.Common
import RowAccess.Proofs.Predicate.Denial
import RowAccess.Proofs.Token

/-!
# The meaning of held tokens

When there is a predicate of held tokens and which fault there is otherwise, and what the predicate says of every
row. The fault is that of the first token whose value cannot be read, and a token for all values hides it. What the
predicate says depends on which tokens are held, but not on how the list of them is written.
-/

namespace RowAccess

/-! ### Tokens without a wildcard -/

namespace Token

variable {k : Kind} {tokens tokens' : List Token} {found : Option Value} {v : Value} {field : String}

/-- Why the value that a token names cannot be read, if it names one and it cannot. -/
def fault? (k : Kind) (field : String) (t : Token) : Option Fault :=
  t.value?.bind fun text =>
    match k.coerce field text with
    | .ok _ => none
    | .error f => some f

theorem value?_eq_some {t : Token} {text : String} : t.value? = some text ↔ t = allow text ∨ t = deny text := by
  cases t <;> simp [value?]

/-- A value is one of those allowed, if any is named, and none of those denied. -/
structure Passes (k : Kind) (tokens : List Token) (v : Value) : Prop where
  allowed : (∀ text, allow text ∉ tokens) ∨
    ∃ text w, allow text ∈ tokens ∧ k.read? text = .ok w ∧ v.equals w = true
  undenied : ∀ text w, deny text ∈ tokens → k.read? text = .ok w → v.equals w = false

/-- Tokens none of which is for all values admit the values that pass them. -/
theorem admit_iff_passes (hheld : tokens ≠ []) (hdeny : denyAll ∉ tokens) (hallow : allowAll ∉ tokens) :
    Admit k tokens (some v) ↔ Passes k tokens v := by
  constructor
  · intro h
    obtain ⟨v', hv', hallowed, hdenied⟩ := h.value.resolve_left hallow
    obtain rfl := Option.some.inj hv'
    refine ⟨?_, hdenied⟩
    by_cases hnamed : ∃ text, allow text ∈ tokens
    · exact .inr (hallowed hnamed)
    · exact .inl (not_exists.mp hnamed)
  · intro h
    refine ⟨hheld, hdeny, .inr ⟨v, rfl, fun ⟨text, hin⟩ => ?_, h.undenied⟩⟩
    exact h.allowed.resolve_left fun hnone => hnone text hin

/-- What a field holds is decided by the comparisons with it, where no token is for all values. -/
theorem truth_some (hheld : tokens ≠ []) (hdeny : denyAll ∉ tokens) (hallow : allowAll ∉ tokens) (v : Value) :
    ∃ b, truth k tokens (some v) = some b ∧ (b = true ↔ Passes k tokens v) := by
  have hpasses : truth k tokens (some v) = some true ↔ Passes k tokens v :=
    truth_iff.trans (admit_iff_passes hheld hdeny hallow)
  unfold truth at hpasses ⊢
  rw [if_neg (not_or.mpr ⟨hheld, hdeny⟩), if_neg hallow, Option.map_some] at hpasses ⊢
  exact ⟨_, rfl, by rw [← hpasses, Option.some.injEq]⟩

/-! ### Tokens read anew -/

/-- The truth of tokens is told by which of them are held. -/
theorem truth_congr (h : ∀ t, t ∈ tokens ↔ t ∈ tokens') : truth k tokens = truth k tokens' := by
  have hnil : tokens = [] ↔ tokens' = [] := by
    rw [List.eq_nil_iff_forall_not_mem, List.eq_nil_iff_forall_not_mem]
    exact forall_congr' fun t => not_congr (h t)
  have hnamed : ∀ negated text, text ∈ named negated tokens ↔ text ∈ named negated tokens' := by
    intro negated text
    cases negated
    · rw [mem_named_false, mem_named_false, h]
    · rw [mem_named_true, mem_named_true, h]
  have hempty : ∀ negated, (named negated tokens).isEmpty = (named negated tokens').isEmpty := by
    intro negated
    rw [Bool.eq_iff_iff, List.isEmpty_iff, List.isEmpty_iff, List.eq_nil_iff_forall_not_mem,
      List.eq_nil_iff_forall_not_mem]
    exact forall_congr' fun text => not_congr (hnamed negated text)
  have hany : ∀ negated p, (named negated tokens).any p = (named negated tokens').any p := by
    intro negated p
    rw [Bool.eq_iff_iff, List.any_eq_true, List.any_eq_true]
    exact exists_congr fun text => and_congr_left fun _ => hnamed negated text
  funext found
  unfold truth
  simp only [hnil, h, hempty, hany]

end Token

namespace Predicate

variable {path : FieldPath} {kind : Kind} {tokens : List Token} {held held' : List String} {f : Fault}
  {p : Predicate}

/-! ### Faults -/

theorem comparisonsOf_cons (t : Token) (rest : List Token) :
    comparisonsOf path kind (t :: rest) =
      match t.value? with
      | none => comparisonsOf path kind rest
      | some text => do
          let w ← kind.coerce path.display text
          let found ← comparisonsOf path kind rest
          return (t.isNegated, equals path w) :: found := by
  unfold comparisonsOf namedValues
  rw [List.filterMap_cons]
  cases t.value? with
  | none => rfl
  | some text =>
    dsimp only [Option.map_some]
    rw [List.mapM_cons]
    cases kind.coerce path.display text <;> rfl

/-- Comparisons fail with the fault of the first token whose value cannot be read. -/
theorem comparisonsOf_eq_error :
    comparisonsOf path kind tokens = .error f ↔ tokens.findSome? (Token.fault? kind path.display) = some f := by
  induction tokens with
  | nil => exact ⟨nofun, nofun⟩
  | cons t rest ih =>
    rw [comparisonsOf_cons, List.findSome?_cons]
    unfold Token.fault?
    cases t.value? with
    | none => exact ih
    | some text =>
      dsimp only [Option.bind_some]
      cases kind.coerce path.display text with
      | error g => exact ⟨fun h => congrArg some (Except.error.inj h), fun h => congrArg _ (Option.some.inj h)⟩
      | ok w =>
        refine Iff.trans ?_ ih
        cases comparisonsOf path kind rest with
        | error g => exact Iff.rfl
        | ok found => exact ⟨nofun, nofun⟩

theorem no_wildcard_iff : (∀ t ∈ tokens, t.isWildcard = false) ↔ .denyAll ∉ tokens ∧ .allowAll ∉ tokens := by
  constructor
  · intro h
    refine ⟨fun hin => ?_, fun hin => ?_⟩
    · cases h _ hin
    · cases h _ hin
  · rintro ⟨hdeny, hallow⟩ t ht
    cases t with
    | allow text => rfl
    | allowAll => exact absurd ht hallow
    | deny text => rfl
    | denyAll => exact absurd ht hdeny

/-- There is no predicate of held tokens exactly if none of them is for all values and the value of one cannot be
read; the fault is that of the first. -/
theorem ofTokens?_eq_error :
    ofTokens? path kind held = .error f ↔
      (∀ t ∈ held.map Token.parse, t.isWildcard = false) ∧
        (held.map Token.parse).findSome? (Token.fault? kind path.display) = some f := by
  rw [no_wildcard_iff, ← comparisonsOf_eq_error]
  unfold ofTokens?
  generalize held.map Token.parse = tokens
  dsimp only
  by_cases hout : tokens = [] ∨ .denyAll ∈ tokens
  · rw [if_pos hout]
    refine ⟨nofun, fun ⟨hnone, hfault⟩ => ?_⟩
    rw [hout.resolve_right hnone.1] at hfault
    cases hfault
  · rw [if_neg hout]
    obtain ⟨-, hdeny⟩ := not_or.mp hout
    by_cases hall : .allowAll ∈ tokens
    · rw [if_pos hall]
      exact ⟨nofun, fun h => absurd hall h.1.2⟩
    · rw [if_neg hall]
      refine Iff.trans ?_ (and_iff_right ⟨hdeny, hall⟩).symm
      cases comparisonsOf path kind tokens with
      | error g => exact ⟨fun h => congrArg _ (Except.error.inj h), fun h => congrArg _ (Except.error.inj h)⟩
      | ok found => exact ⟨nofun, nofun⟩

/-- Whether there is a fault is told by which tokens are held. -/
theorem exists_fault_iff : (∃ f, ofTokens? path kind held = .error f) ↔
    (∀ t ∈ held.map Token.parse, t.isWildcard = false) ∧
      ∃ text f, (.allow text ∈ held.map Token.parse ∨ .deny text ∈ held.map Token.parse) ∧
        kind.coerce path.display text = .error f := by
  have hfault : ∀ t, (Token.fault? kind path.display t).isSome = true ↔
      ∃ text f, t.value? = some text ∧ kind.coerce path.display text = .error f := by
    intro t
    unfold Token.fault?
    cases t.value? with
    | none => exact ⟨nofun, fun ⟨_, _, h, _⟩ => nomatch h⟩
    | some text =>
      rw [Option.bind_some]
      cases hw : kind.coerce path.display text with
      | ok w =>
        refine ⟨nofun, fun ⟨text', f, htext, hf⟩ => ?_⟩
        obtain rfl := Option.some.inj htext
        cases hw.symm.trans hf
      | error f => exact ⟨fun _ => ⟨text, f, rfl, hw⟩, fun _ => rfl⟩
  have hany : ((held.map Token.parse).findSome? (Token.fault? kind path.display)).isSome = true ↔
      ∃ text f, (.allow text ∈ held.map Token.parse ∨ .deny text ∈ held.map Token.parse) ∧
        kind.coerce path.display text = .error f := by
    simp only [List.isSome_findSome?, List.any_eq_true, hfault, Token.value?_eq_some]
    constructor
    · rintro ⟨t, ht, text, f, rfl | rfl, hf⟩
      · exact ⟨text, f, .inl ht, hf⟩
      · exact ⟨text, f, .inr ht, hf⟩
    · rintro ⟨text, f, ht | ht, hf⟩
      · exact ⟨_, ht, text, f, .inl rfl, hf⟩
      · exact ⟨_, ht, text, f, .inr rfl, hf⟩
  constructor
  · rintro ⟨f, hf⟩
    obtain ⟨hwild, hfirst⟩ := ofTokens?_eq_error.mp hf
    exact ⟨hwild, hany.mp (Option.isSome_iff_exists.mpr ⟨f, hfirst⟩)⟩
  · rintro ⟨hwild, hnamed⟩
    obtain ⟨f, hfirst⟩ := Option.isSome_iff_exists.mp (hany.mpr hnamed)
    exact ⟨f, ofTokens?_eq_error.mpr ⟨hwild, hfirst⟩⟩

/-- Tokens told in other words have a predicate if these have one, with the same truth for every row. -/
theorem ofTokens?_retold (h : Token.Retold held held') (hp : ofTokens? path kind held = .ok p) :
    ∃ p', ofTokens? path kind held' = .ok p' ∧ ∀ r, p'.evaluate r = p.evaluate r := by
  have hmem := h.mem_parse
  cases hp' : ofTokens? path kind held' with
  | error f =>
    obtain ⟨hwild, text, g, hnamed, hg⟩ := exists_fault_iff.mp ⟨f, hp'⟩
    simp only [← hmem] at hwild hnamed
    obtain ⟨f', hf'⟩ := exists_fault_iff.mpr ⟨hwild, text, g, hnamed, hg⟩
    cases hp.symm.trans hf'
  | ok p' =>
    refine ⟨p', rfl, fun r => ?_⟩
    rw [evaluate_ofTokens? hp', evaluate_ofTokens? hp, Token.truth_congr hmem]

/-! ### The outcome -/

/-- What comes of held tokens. There is a fault exactly if none of them is for all values and the value of one cannot
be read: the fault of the first. Otherwise the predicate is false of every row if nothing is held or all values are
denied, else true of every row if all values are allowed; else it is unknown where the path leads to no value, and
where it leads to one it is true exactly if that is an allowed value, if any is named, and no denied one. Tokens in
another order, repeated or with blanks around them come to the same for every row. -/
theorem outcome_of_held (path : FieldPath) (kind : Kind) (held : List String) :
    let tokens := held.map Token.parse
    (∀ f, ofTokens? path kind held = .error f ↔
      (∀ t ∈ tokens, t.isWildcard = false) ∧
        tokens.findSome? (Token.fault? kind path.display) = some f) ∧
    ((∃ f, ofTokens? path kind held = .error f) ↔
      (∀ t ∈ tokens, t.isWildcard = false) ∧
        ∃ text f, (.allow text ∈ tokens ∨ .deny text ∈ tokens) ∧ kind.coerce path.display text = .error f) ∧
    (∀ p, ofTokens? path kind held = .ok p → ∀ r,
      (held = [] ∨ .denyAll ∈ tokens → p.evaluate r = some false) ∧
      (.denyAll ∉ tokens → .allowAll ∈ tokens → p.evaluate r = some true) ∧
      (held ≠ [] → (∀ t ∈ tokens, t.isWildcard = false) →
        (path.resolve r = none → p.evaluate r = none) ∧
        ∀ v, path.resolve r = some v →
          ∃ b, p.evaluate r = some b ∧ (b = true ↔ Token.Passes kind tokens v))) ∧
    ∀ held', Token.Retold held held' → ∀ p, ofTokens? path kind held = .ok p →
      ∃ p', ofTokens? path kind held' = .ok p' ∧ ∀ r, p'.evaluate r = p.evaluate r := by
  intro tokens
  have hnil : tokens = [] ↔ held = [] := List.map_eq_nil_iff
  refine ⟨fun f => ofTokens?_eq_error, exists_fault_iff, fun p hp r => ?_,
    fun held' h p hp => ofTokens?_retold h hp⟩
  rw [evaluate_ofTokens? hp r]
  refine ⟨fun hout => ?_, fun hdeny hallow => ?_, fun hheld hwild => ?_⟩
  · exact if_pos (hout.imp_left hnil.mpr)
  · unfold Token.truth
    rw [if_neg (not_or.mpr ⟨List.ne_nil_of_mem hallow, hdeny⟩), if_pos hallow]
  · obtain ⟨hdeny, hallow⟩ := no_wildcard_iff.mp hwild
    have hne : tokens ≠ [] := fun h => hheld (hnil.mp h)
    refine ⟨fun hnone => ?_, fun v hv => ?_⟩
    · unfold Token.truth
      rw [if_neg (not_or.mpr ⟨hne, hdeny⟩), if_neg hallow, hnone, Option.map_none]
    · rw [hv]
      exact Token.truth_some hne hdeny hallow v

/-- The second tier is allowed and the third denied; then the first token is written twice, once with a blank. -/
theorem outcome_of_held_tiers :
    ∃ p p', ofTokens? (.own "tier") (.whole .u8) ["2", "!3"] = .ok p ∧
      ofTokens? (.own "tier") (.whole .u8) [" 2", "2", "!3"] = .ok p' ∧
      p.evaluate .empty = none ∧ ∀ r, p'.evaluate r = p.evaluate r := by
  obtain ⟨-, -, hrows, hretold⟩ := outcome_of_held (.own "tier") (.whole .u8) ["2", "!3"]
  have hmade : ∃ p, ofTokens? (.own "tier") (.whole .u8) ["2", "!3"] = .ok p := ⟨_, rfl⟩
  obtain ⟨p, hp⟩ := hmade
  have hagain : Token.Retold ["2", "!3"] ["2", "2", "!3"] := .again List.mem_cons_self
  have hpad : Token.Retold ["2", "2", "!3"] [" 2", "2", "!3"] :=
    @Token.Retold.pad [' '] [] "2" ["2", "!3"] (List.forall_mem_singleton.mpr rfl) (List.forall_mem_nil _)
  obtain ⟨p', hp', hsame⟩ := hretold _ (hagain.trans hpad) p hp
  exact ⟨p, p', hp, hp', ((hrows p hp .empty).2.2 (by decide) (by decide)).1 rfl, hsame⟩

/-- Of two tokens that cannot be read, the first one is the fault, without its exclamation mark. -/
example : ofTokens? (.own "tier") (.whole .u8) ["1", "!high", "low"] =
    .error (.valueCoercion "tier" "u8" "high" "invalid digit found in string") := rfl

end Predicate

end RowAccess
