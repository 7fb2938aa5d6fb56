import Mathlib.Data.List.Basic
import Mathlib.Tactic.Common
import RowAccess.NameMap

/-!
# Looking names up

Putting a name changes what is found under that name, and under no other.
-/

namespace RowAccess

variable {entries : List (String × String)} {name d : String} {text : Option String → String}

theorem lookup_cons_ite {α : Type} (e : String × α) (rest : List (String × α)) (d : String) :
    (e :: rest).lookup d = if d = e.1 then some e.2 else rest.lookup d := by
  rw [List.lookup_cons]
  by_cases h : d = e.1
  · rw [beq_iff_eq.mpr h, if_pos h]
  · rw [beq_false_of_ne h, if_neg h]

/-- A name before all others is none of them. -/
theorem lookup_eq_none_of_lt (h : ∀ e ∈ entries, d < e.1) : entries.lookup d = none :=
  List.lookup_eq_none_iff.mpr fun e he => bne_iff_ne.mpr (String.ne_of_lt (h e he))

/-- No later entry has the name of the first. -/
theorem Ascending.lookup_rest {e : String × String} (h : Ascending (e :: entries)) : entries.lookup e.1 = none :=
  lookup_eq_none_of_lt (List.pairwise_cons.mp h).1

namespace NameMap

theorem lookup_putEntry :
    ∀ {entries : List (String × String)}, Ascending entries → ∀ d,
      (putEntry name text entries).lookup d = if d = name then some (text (entries.lookup name)) else entries.lookup d
  | [], _, d => lookup_cons_ite _ _ d
  | e :: rest, h, d => by
      obtain ⟨hfirst, hrest⟩ := List.pairwise_cons.mp h
      unfold putEntry
      split
      next hlt =>
        have hnew : (e :: rest).lookup name = none :=
          lookup_eq_none_of_lt (List.forall_mem_cons.mpr ⟨hlt, fun e' he' => String.lt_trans hlt (hfirst e' he')⟩)
        rw [hnew, lookup_cons_ite]
      next =>
        split
        next heq =>
          subst heq
          simp only [lookup_cons_ite, if_true]
          split <;> rfl
        next hne =>
          simp only [lookup_cons_ite, lookup_putEntry hrest d, if_neg hne]
          by_cases hd : d = e.1
          · rw [if_pos hd, if_pos hd, if_neg (hd ▸ Ne.symm hne)]
          · rw [if_neg hd, if_neg hd]

theorem get?_put (m : NameMap) (name : String) (text : Option String → String) (d : String) :
    (m.put name text).get? d = if d = name then some (text (m.get? name)) else m.get? d :=
  lookup_putEntry m.ascending d

/-- The names are those under which something is found. -/
theorem mem_names {m : NameMap} : d ∈ m.names ↔ (m.get? d).isSome = true := by
  unfold names get?
  rw [List.lookup_isSome_iff, List.mem_map]
  exact exists_congr fun e => and_congr_right fun _ => eq_comm.trans beq_iff_eq.symm

end NameMap

end RowAccess
