import Mathlib.Data.List.Basic
import Mathlib.Tactic.Common
import RowAccess.Proofs.Predicate.Held
import RowAccess.Proofs.Value

/-!
# What a denial denies

A denied value is refused because it equals itself. This is so for all values but one: what is not a number
equals nothing, and the denial that names it refuses no row. The predicate of held tokens is made whenever
the values that they name can be read.
-/

namespace RowAccess

namespace Predicate

variable {path : FieldPath} {kind : Kind} {tokens : List Token}

/-- Tokens whose values can all be read are compared with. -/
theorem comparisonsOf_ok (h : ∀ t ∈ tokens, ∀ text, t.value? = some text →
    ∃ w, kind.coerce path.display text = .ok w) : ∃ found, comparisonsOf path kind tokens = .ok found := by
  have hnamed : ∀ n ∈ namedValues tokens, ∃ w, kind.coerce path.display n.2 = .ok w := by
    intro n hn
    obtain ⟨t, ht, heq⟩ := List.mem_filterMap.mp hn
    obtain ⟨text, htext, rfl⟩ := Option.map_eq_some_iff.mp heq
    exact h t ht text htext
  unfold comparisonsOf
  generalize namedValues tokens = names at hnamed ⊢
  induction names with
  | nil => exact ⟨[], rfl⟩
  | cons n rest ih =>
    obtain ⟨negated, text⟩ := n
    obtain ⟨w, hw⟩ : ∃ w, kind.coerce path.display text = .ok w := hnamed _ List.mem_cons_self
    obtain ⟨found, hfound⟩ := ih fun n hn => hnamed n (List.mem_cons_of_mem _ hn)
    refine ⟨(negated, equals path w) :: found, ?_⟩
    rw [List.mapM_cons, hfound]
    simp only [hw]
    rfl

/-- There is a predicate of held tokens whose values can all be read. -/
theorem ofTokens?_ok {held : List String} (h : ∀ t ∈ held.map Token.parse, ∀ text, t.value? = some text →
    ∃ w, kind.coerce path.display text = .ok w) : ∃ p, ofTokens? path kind held = .ok p := by
  obtain ⟨found, hfound⟩ := comparisonsOf_ok h
  unfold ofTokens?
  dsimp only
  split
  · exact ⟨never, rfl⟩
  · split
    · exact ⟨always, rfl⟩
    · rw [hfound]
      exact ⟨_, rfl⟩

end Predicate

namespace Token

/-- A token that begins with an exclamation mark is the denial of what stands behind it, or of all values. -/
theorem parse_of_mark {raw text : String} (h : Text.trim raw.toList = negationMark :: text.toList) :
    parse raw = .deny text ∨ parse raw = .denyAll := by
  unfold parse
  rw [h]
  simp only [negationMark, String.ofList_toList]
  split
  · exact .inr rfl
  · exact .inl rfl

/-- Where not all values are allowed, a value that equals a denied one is not admitted. -/
theorem not_admit_of_deny {k : Kind} {tokens : List Token} {text : String} {v w : Value}
    (hdeny : deny text ∈ tokens) (hall : allowAll ∉ tokens) (hw : k.read? text = .ok w)
    (heq : v.equals w = true) : ¬ Admit k tokens (some v) := by
  intro hpass
  obtain ⟨v', hv', -, hdenied⟩ := hpass.value.resolve_left hall
  obtain rfl := Option.some.inj hv'
  have hdiffers := hdenied text w hdeny hw
  rw [heq] at hdiffers
  cases hdiffers

end Token

namespace Predicate

/-- Held tokens, among them a text with an exclamation mark before it, but none that allows all values and none
whose value cannot be read: there is a predicate of them, and it admits no row whose field holds the value that the
text stands for, unless that is not a number. -/
theorem denied_value_refused (kind : Kind) (path : FieldPath) (held : List String) (raw text : String) (v : Value)
    (r : Row) (hraw : raw ∈ held) (hmark : Text.trim raw.toList = Token.negationMark :: text.toList)
    (hall : .allowAll ∉ held.map Token.parse)
    (hread : ∀ t ∈ held.map Token.parse, ∀ named, t.value? = some named →
      ∃ w, kind.coerce path.display named = .ok w)
    (hv : kind.coerce path.display text = .ok v) (hnumber : v ≠ .binary64 .notANumber)
    (hr : path.resolve r = some v) :
    ∃ p, ofTokens? path kind held = .ok p ∧ p.admits r = false := by
  obtain ⟨p, hp⟩ := ofTokens?_ok hread
  refine ⟨p, hp, ?_⟩
  have hparsed : Token.parse raw ∈ held.map Token.parse := List.mem_map_of_mem hraw
  have hrefused : ¬ Token.Admit kind (held.map Token.parse) (some v) := by
    rcases Token.parse_of_mark hmark with hdeny | hdeny
    · rw [hdeny] at hparsed
      have hself : v.equals v = true := v.equals_self_iff.mpr hnumber
      exact Token.not_admit_of_deny hparsed hall (Kind.coerce_eq_ok.mp hv) hself
    · rw [hdeny] at hparsed
      exact fun hpass => hpass.undenied hparsed
  rw [← hr, ← admits_ofTokens? hp] at hrefused
  exact Bool.eq_false_iff.mpr hrefused

/-- An order whose customer is active. -/
def activeCustomer : Row := .mk [] [("customer", .mk [("active", .bool true)] [])]

theorem denied_value_refused_active :
    ∃ p, ofTokens? ⟨["customer"], "active"⟩ .bool [" !TRUE", "false"] = .ok p ∧
      p.admits activeCustomer = false := by
  have htokens : [" !TRUE", "false"].map Token.parse = [.deny "TRUE", .allow "false"] := by decide
  refine denied_value_refused .bool ⟨["customer"], "active"⟩ [" !TRUE", "false"] " !TRUE" "TRUE" (.bool true)
    activeCustomer (by decide) (by decide) (by decide) ?_ rfl (by decide) rfl
  rw [htokens]
  intro t ht named hnamed
  rcases List.mem_pair.mp ht with rfl | rfl
  · cases hnamed
    exact ⟨.bool true, rfl⟩
  · cases hnamed
    exact ⟨.bool false, rfl⟩

/-- A denial of not-a-number refuses no row: it is not so that every denial refuses the value that it names. -/
theorem denied_not_a_number_admitted :
    ¬ ∀ (kind : Kind) (path : FieldPath) (held : List String) (raw text : String) (v : Value) (r : Row),
      raw ∈ held → Text.trim raw.toList = Token.negationMark :: text.toList →
      .allowAll ∉ held.map Token.parse →
      (∀ t ∈ held.map Token.parse, ∀ named, t.value? = some named →
        ∃ w, kind.coerce path.display named = .ok w) →
      kind.coerce path.display text = .ok v → path.resolve r = some v →
      ∃ p, ofTokens? path kind held = .ok p ∧ p.admits r = false := by
  intro h
  have htokens : ["!nan"].map Token.parse = [.deny "nan"] := by decide
  have hread : Kind.binary64.coerce (FieldPath.own "score").display "nan" = .ok (.binary64 .notANumber) := rfl
  have hmade : ofTokens? (.own "score") .binary64 ["!nan"] =
      .ok (.not (.equals (.own "score") (.binary64 .notANumber))) := rfl
  obtain ⟨p, hp, hrefused⟩ := h .binary64 (.own "score") ["!nan"] "!nan" "nan" (.binary64 .notANumber)
    (.mk [("score", .binary64 .notANumber)] []) (by decide) (by decide) (by decide)
    (by
      rw [htokens]
      intro t ht named hnamed
      rw [List.mem_singleton.mp ht] at hnamed
      cases hnamed
      exact ⟨_, hread⟩)
    hread rfl
  obtain rfl := Except.ok.inj (hmade.symm.trans hp)
  revert hrefused
  decide

end Predicate

end RowAccess
