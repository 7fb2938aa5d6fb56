import Mathlib.Data.List.Basic
import Mathlib.Data.List.Nodup
import Mathlib.Tactic.Common
import RowAccess.Source

/-!
# Tables of tokens

What the operations on a table do to the tokens of a dimension. Adding and setting change one dimension
only, and adding tokens that are all held changes none.
-/

namespace RowAccess.TokenTable

/-! ### Lists that hold each token once -/

theorem mem_withToken {held : List String} {token t : String} :
    t ∈ withToken held token ↔ t ∈ held ∨ t = token := by
  unfold withToken
  by_cases h : token ∈ held
  · rw [if_pos (List.contains_iff_mem.mpr h)]
    exact ⟨.inl, fun ht => ht.elim id fun ht => ht ▸ h⟩
  · rw [if_neg (fun hc => h (List.contains_iff_mem.mp hc)), List.mem_append, List.mem_singleton]

theorem mem_foldl_withToken {t : String} :
    ∀ {tokens held : List String}, t ∈ tokens.foldl withToken held ↔ t ∈ held ∨ t ∈ tokens
  | [], held => by simp
  | token :: rest, held => by
      rw [List.foldl_cons, mem_foldl_withToken, mem_withToken, List.mem_cons, or_assoc]

theorem foldl_withToken_of_subset {held : List String} :
    ∀ {tokens : List String}, (∀ t ∈ tokens, t ∈ held) → tokens.foldl withToken held = held
  | [], _ => rfl
  | token :: rest, h => by
      have htoken : withToken held token = held :=
        if_pos (List.contains_iff_mem.mpr (h token (by simp)))
      rw [List.foldl_cons, htoken]
      exact foldl_withToken_of_subset fun t ht => h t (List.mem_cons_of_mem _ ht)

/-- Tokens are all held where adding them changes nothing. -/
theorem foldl_withToken_eq_self_iff {held tokens : List String} :
    tokens.foldl withToken held = held ↔ ∀ t ∈ tokens, t ∈ held := by
  refine ⟨fun h t ht => ?_, foldl_withToken_of_subset⟩
  rw [← h]
  exact mem_foldl_withToken.mpr (.inr ht)

/-- Tokens come behind those that are held, in order and each new one once. -/
theorem foldl_withToken (held tokens : List String) :
    tokens.foldl withToken held = held ++ (tokens.removeAll held).eraseDups := by
  induction tokens generalizing held with
  | nil => rw [List.foldl_nil, List.nil_removeAll, List.eraseDups_nil, List.append_nil]
  | cons token rest ih =>
    rw [List.foldl_cons, ih, withToken, List.cons_removeAll]
    by_cases h : held.contains token = true
    · rw [if_pos h, if_neg (by rw [h]; exact Bool.noConfusion)]
    · have hnew : rest.removeAll (held ++ [token]) = (rest.removeAll held).filter fun t => !t == token := by
        unfold List.removeAll
        rw [List.filter_filter]
        exact List.filter_congr fun t _ => by simp [Bool.and_comm, Bool.beq_eq_decide_eq]
      rw [if_neg h, if_pos (Bool.eq_false_iff.mpr h), List.eraseDups_cons, hnew, List.append_assoc]
      rfl

theorem foldl_withToken_nil (tokens : List String) : tokens.foldl withToken [] = tokens.eraseDups := by
  rw [foldl_withToken, List.nil_append, List.removeAll_nil]

/-- Tokens that are all different come as they are. -/
theorem eraseDups_of_nodup : ∀ {tokens : List String}, tokens.Nodup → tokens.eraseDups = tokens
  | [], _ => List.eraseDups_nil
  | token :: rest, h => by
      obtain ⟨hnew, hrest⟩ := List.nodup_cons.mp h
      have hall : ∀ t ∈ rest, (!t == token) = true := by
        rintro t ht
        rw [Bool.not_eq_true', beq_eq_false_iff_ne]
        rintro rfl
        exact hnew ht
      rw [List.eraseDups_cons, List.filter_eq_self.mpr hall, eraseDups_of_nodup hrest]

theorem nodup_foldl_withToken : ∀ {tokens held : List String}, held.Nodup → (tokens.foldl withToken held).Nodup
  | [], _, h => h
  | token :: rest, held, h => by
      rw [List.foldl_cons]
      refine nodup_foldl_withToken ?_
      unfold withToken
      split
      next => exact h
      next hnew =>
        rw [← List.concat_eq_append]
        exact h.concat fun hin => hnew (List.contains_iff_mem.mpr hin)

/-! ### Tokens of a dimension after a change -/

@[simp]
theorem tokens_nil (d : String) : tokens [] d = [] := rfl

theorem tokens_cons (e : String × List String) (t : TokenTable) (d : String) :
    tokens (e :: t) d = if d = e.1 then e.2 else t.tokens d := by
  unfold tokens
  rw [List.lookup_cons]
  by_cases h : d = e.1
  · rw [if_pos h, beq_iff_eq.mpr h, Option.getD_some]
  · rw [if_neg h, beq_false_of_ne h]

/-- A change reaches the tokens of its own dimension only. -/
theorem tokens_change (t : TokenTable) (dimension : String) (f : List String → List String)
    (d : String) :
    (t.change dimension f).tokens d =
      if d = dimension then f (t.tokens dimension) else t.tokens d := by
  induction t with
  | nil => simp only [change, tokens_cons, tokens_nil]
  | cons e rest ih =>
    unfold change
    by_cases he : e.1 = dimension
    · subst he
      simp only [if_true, tokens_cons]
      split <;> rfl
    · rw [if_neg he, tokens_cons, ih, tokens_cons, tokens_cons, if_neg (Ne.symm he)]
      by_cases hd : d = e.1
      · rw [if_pos hd, if_pos hd, if_neg (hd ▸ he)]
      · rw [if_neg hd, if_neg hd]

theorem tokens_add (t : TokenTable) (dimension : String) (ts : List String) (d : String) :
    (t.add dimension ts).tokens d =
      if d = dimension then ts.foldl withToken (t.tokens dimension) else t.tokens d :=
  tokens_change t dimension _ d

/-- Adding what is held already changes no tokens, though the dimension may be new to the table. -/
theorem tokens_add_of_held {t : TokenTable} {dimension : String} {ts : List String}
    (h : ∀ token ∈ ts, token ∈ t.tokens dimension) : (t.add dimension ts).tokens = t.tokens := by
  funext d
  rw [tokens_add, foldl_withToken_of_subset h]
  split
  next hd => rw [hd]
  next => rfl

/-- The tokens of a dimension stand in an entry, or there are none. -/
theorem tokens_cases (t : TokenTable) (d : String) : t.tokens d = [] ∨ ∃ e ∈ t, t.tokens d = e.2 := by
  induction t with
  | nil => exact .inl rfl
  | cons e rest ih =>
    rw [tokens_cons]
    split
    · exact .inr ⟨e, List.mem_cons_self, rfl⟩
    · rcases ih with h | ⟨e', he', h⟩
      · exact .inl h
      · exact .inr ⟨e', List.mem_cons_of_mem _ he', h⟩

/-! ### Tokens of several dimensions -/

variable {t : TokenTable} {entries : List (String × List String)} {d token : String}

theorem mem_dimensions_add {dimension : String} {tokens : List String} :
    d ∈ (t.add dimension tokens).dimensions ↔ d = dimension ∨ d ∈ t.dimensions := by
  unfold add dimensions
  induction t with
  | nil => simp [change]
  | cons e rest ih =>
    unfold change
    split
    next h => simp [h]
    next => rw [List.map_cons, List.mem_cons, ih, List.map_cons, List.mem_cons, or_left_comm]

/-- Where a dimension is recorded and holds the tokens, adding them changes nothing. -/
theorem add_of_held {tokens : List String} (hd : d ∈ t.dimensions) (h : ∀ token ∈ tokens, token ∈ t.tokens d) :
    t.add d tokens = t := by
  unfold add
  induction t with
  | nil => cases hd
  | cons e rest ih =>
    rw [tokens_cons] at h
    unfold change
    split
    next he =>
      rw [if_pos he.symm] at h
      rw [foldl_withToken_of_subset h, ← he]
    next he =>
      rw [if_neg (Ne.symm he)] at h
      rw [ih ((List.mem_cons.mp hd).resolve_left (Ne.symm he)) h]

/-- Adds tokens dimension by dimension. -/
def addAll (t : TokenTable) (entries : List (String × List String)) : TokenTable :=
  entries.foldl (fun t e => t.add e.1 e.2) t

/-- The dimension of an entry is recorded and holds its tokens. -/
def Has (t : TokenTable) (e : String × List String) : Prop :=
  e.1 ∈ t.dimensions ∧ ∀ token ∈ e.2, token ∈ t.tokens e.1

theorem mem_tokens_add {dimension : String} {tokens : List String} :
    token ∈ (t.add dimension tokens).tokens d ↔ token ∈ t.tokens d ∨ d = dimension ∧ token ∈ tokens := by
  rw [tokens_add]
  split
  next h =>
    subst h
    rw [mem_foldl_withToken, and_iff_right rfl]
  next h => exact (or_iff_left fun hboth => h hboth.1).symm

theorem Has.add {e : String × List String} (h : t.Has e) (dimension : String) (tokens : List String) :
    (t.add dimension tokens).Has e :=
  ⟨mem_dimensions_add.mpr (.inr h.1), fun token ht => mem_tokens_add.mpr (.inl (h.2 token ht))⟩

theorem Has.addAll {e : String × List String} (h : t.Has e) : (t.addAll entries).Has e := by
  induction entries generalizing t with
  | nil => exact h
  | cons first rest ih => exact ih (h.add first.1 first.2)

/-- A table has what was added to it. -/
theorem has_addAll {e : String × List String} (he : e ∈ entries) : (t.addAll entries).Has e := by
  induction entries generalizing t with
  | nil => cases he
  | cons first rest ih =>
    rcases List.mem_cons.mp he with rfl | hrest
    · have hadded : (t.add e.1 e.2).Has e :=
        ⟨mem_dimensions_add.mpr (.inl rfl), fun token ht => mem_tokens_add.mpr (.inr ⟨rfl, ht⟩)⟩
      exact hadded.addAll
    · exact ih hrest

theorem addAll_of_has (h : ∀ e ∈ entries, t.Has e) : t.addAll entries = t := by
  induction entries with
  | nil => rfl
  | cons first rest ih =>
    obtain ⟨⟨hrecorded, hheld⟩, hrest⟩ := List.forall_mem_cons.mp h
    show (t.add first.1 first.2).addAll rest = t
    rw [add_of_held hrecorded hheld]
    exact ih hrest

/-- A table stays the same where it has all that is added, and only there. -/
theorem addAll_eq_self_iff : t.addAll entries = t ↔ ∀ e ∈ entries, t.Has e := by
  refine ⟨fun h e he => ?_, addAll_of_has⟩
  rw [← h]
  exact has_addAll he

end RowAccess.TokenTable
