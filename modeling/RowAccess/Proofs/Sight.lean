import Mathlib.Data.List.Basic
import Mathlib.Tactic.Common

/-!
# What one line sees

Scopes and tables are numbered as they are made, by whichever line makes them. A line that shares them with
others sees some that were there at the start and those that it made itself. `Sight` says which these are,
and `Sight.rename` gives the numbers that they have where they are shared, by the numbers that they have
where the line is alone.
-/

namespace RowAccess

structure Sight where
  /-- How many there were at the start. -/
  start : Nat
  /-- Those of the start that the line sees. -/
  seen : List Nat
  /-- Those of the start that the line is in. -/
  inside : List Nat
  /-- Those that it made since, by their shared numbers. -/
  own : List Nat

namespace Sight

variable {v : Sight} {n m k shared alone : Nat}

/-- The shared number of what has a number where the line is alone. -/
def rename (v : Sight) (n : Nat) : Nat :=
  if n < v.start then n else (v.own[n - v.start]?).getD 0

/-- Whether the line made it, by its number where the line is alone. -/
def Made (v : Sight) (n : Nat) : Prop := v.start ≤ n ∧ n < v.start + v.own.length

def Sees (v : Sight) (n : Nat) : Prop := n ∈ v.seen ∨ v.Made n

def Inside (v : Sight) (n : Nat) : Prop := n ∈ v.inside ∨ v.Made n

/-- The line makes one more, with a shared number. -/
def make (v : Sight) (serial : Nat) : Sight := { v with own := v.own ++ [serial] }

/-- There are as many where they are shared and where the line is alone. -/
structure Counts (v : Sight) (shared alone : Nat) : Prop where
  length : alone = v.start + v.own.length
  started : v.start ≤ shared
  own : ∀ n ∈ v.own, v.start ≤ n ∧ n < shared
  nodup : v.own.Nodup
  seen : ∀ n ∈ v.seen, n < v.start

/-! ### Numbers -/

theorem rename_of_lt (h : n < v.start) : v.rename n = n := if_pos h

theorem Made.rename (h : v.Made n) : v.own[n - v.start]? = some (v.rename n) := by
  have hlt : n - v.start < v.own.length := by have := h.1; have := h.2; omega
  unfold Sight.rename
  rw [if_neg (Nat.not_lt.mpr h.1), List.getElem?_eq_getElem hlt, Option.getD_some]

theorem Made.rename_mem (h : v.Made n) : v.rename n ∈ v.own := List.mem_of_getElem? h.rename

/-- At the start, the line made nothing. -/
theorem not_made_start {seen inside : List Nat} : ¬ (Sight.mk k seen inside []).Made n :=
  fun h => absurd h.2 (Nat.not_lt.mpr h.1)

theorem made_make : (v.make k).Made n ↔ v.Made n ∨ n = v.start + v.own.length := by
  show v.start ≤ n ∧ n < v.start + (v.own ++ [k]).length ↔
    (v.start ≤ n ∧ n < v.start + v.own.length) ∨ n = v.start + v.own.length
  rw [List.length_append, List.length_singleton]
  omega

theorem sees_make : (v.make k).Sees n ↔ v.Sees n ∨ n = v.start + v.own.length := by
  rw [Sees, Sees, made_make, or_assoc]
  rfl

theorem inside_make : (v.make k).Inside n ↔ v.Inside n ∨ n = v.start + v.own.length := by
  rw [Inside, Inside, made_make, or_assoc]
  rfl

/-- What is made next gets the next number. -/
theorem rename_make_new : (v.make k).rename (v.start + v.own.length) = k := by
  unfold rename make
  rw [if_neg (Nat.not_lt.mpr (Nat.le_add_right _ _)), Nat.add_sub_cancel_left,
    List.getElem?_concat_length, Option.getD_some]

namespace Counts

theorem start {seen inside : List Nat} (h : ∀ n ∈ seen, n < k) :
    (Sight.mk k seen inside []).Counts k k :=
  ⟨rfl, Nat.le_refl k, fun _ hn => (List.not_mem_nil hn).elim, List.nodup_nil, h⟩

theorem lt_shared (h : v.Counts shared alone) (hn : n ∈ v.seen ++ v.own) : n < shared := by
  rcases List.mem_append.mp hn with hn | hn
  · exact Nat.lt_of_lt_of_le (h.seen n hn) h.started
  · exact (h.own n hn).2

/-- What the line sees is named by what it saw at the start and what it made. -/
theorem rename_mem (h : v.Counts shared alone) (hn : v.Sees n) : v.rename n ∈ v.seen ++ v.own := by
  rcases hn with hn | hn
  · rw [rename_of_lt (h.seen n hn)]
    exact List.mem_append_left _ hn
  · exact List.mem_append_right _ hn.rename_mem

/-- Different things that the line sees have different shared numbers. -/
theorem rename_inj (h : v.Counts shared alone) (hn : v.Sees n) (hm : v.Sees m)
    (heq : v.rename n = v.rename m) : n = m := by
  rcases hn with hn | hn
  · have hnlt := h.seen n hn
    rw [rename_of_lt hnlt] at heq
    rcases hm with hm | hm
    · rwa [rename_of_lt (h.seen m hm)] at heq
    · have hge := (h.own _ hm.rename_mem).1
      omega
  · rcases hm with hm | hm
    · have hge := (h.own _ hn.rename_mem).1
      have hmlt := h.seen m hm
      rw [rename_of_lt hmlt] at heq
      omega
    · have hidx : n - v.start = m - v.start := by
        have hlt : n - v.start < v.own.length := (List.getElem?_eq_some_iff.mp hn.rename).1
        exact (List.getElem?_inj hlt h.nodup).mp (by rw [hn.rename, hm.rename, heq])
      have hn₁ := hn.1
      have hm₁ := hm.1
      omega

theorem rename_make (h : v.Counts shared alone) (hn : v.Sees n) :
    (v.make k).rename n = v.rename n := by
  rcases hn with hn | hn
  · have hlt := h.seen n hn
    rw [rename_of_lt hlt, rename_of_lt (v := v.make k) hlt]
  · have hlt : n - v.start < v.own.length := (List.getElem?_eq_some_iff.mp hn.rename).1
    have hge : ¬ n < v.start := Nat.not_lt.mpr hn.1
    unfold rename make
    rw [if_neg hge, if_neg hge, List.getElem?_append_left hlt]

/-- Others make more. -/
theorem mono (h : v.Counts shared alone) (hle : shared ≤ k) : v.Counts k alone where
  length := h.length
  started := Nat.le_trans h.started hle
  own n hn := ⟨(h.own n hn).1, Nat.lt_of_lt_of_le (h.own n hn).2 hle⟩
  nodup := h.nodup
  seen := h.seen

/-- The line makes the next one. -/
theorem make (h : v.Counts shared alone) : (v.make shared).Counts (shared + 1) (alone + 1) where
  length := by
    show _ = v.start + (v.own ++ [_]).length
    rw [List.length_append, h.length]
    rfl
  started := Nat.le_succ_of_le h.started
  own n hn := by
    rcases List.mem_append.mp hn with hn | hn
    · exact ⟨(h.own n hn).1, Nat.lt_succ_of_lt (h.own n hn).2⟩
    · rw [List.mem_singleton.mp hn]
      exact ⟨h.started, Nat.lt_succ_self _⟩
  nodup := by
    show (v.own ++ [_]).Nodup
    rw [List.nodup_append]
    refine ⟨h.nodup, by simp, ?_⟩
    rintro n hn m hm rfl
    exact Nat.ne_of_lt (h.own n hn).2 (List.mem_singleton.mp hm)
  seen := h.seen

end Counts

/-! ### Lists of numbers -/

/-- Numbers of the same things, where they are shared and where the line is alone. -/
structure SameNumbers (v : Sight) (xs ys : List Nat) : Prop where
  eq : xs = ys.map v.rename
  sees : ∀ n ∈ ys, v.Sees n

/-- At the start, numbers are the same. -/
theorem sameNumbers_start {seen inside xs : List Nat} (hseen : ∀ n ∈ seen, n < k)
    (h : ∀ n ∈ xs, n ∈ seen) : (Sight.mk k seen inside []).SameNumbers xs xs := by
  have hsame : xs.map (Sight.mk k seen inside []).rename = xs.map id :=
    List.map_congr_left fun n hn => rename_of_lt (hseen n (h n hn))
  exact ⟨by rw [hsame, List.map_id], fun n hn => .inl (h n hn)⟩

theorem Counts.sameNumbers_make (h : v.Counts shared alone) {xs ys : List Nat}
    (hs : v.SameNumbers xs ys) : (v.make shared).SameNumbers (xs ++ [shared]) (ys ++ [alone]) := by
  constructor
  · have hold : ys.map (v.make shared).rename = ys.map v.rename :=
      List.map_congr_left fun n hn => h.rename_make (hs.sees n hn)
    rw [List.map_append, hold, hs.eq, List.map_singleton, h.length, rename_make_new]
  · intro n hn
    rcases List.mem_append.mp hn with hn | hn
    · exact sees_make.mpr (.inl (hs.sees n hn))
    · exact sees_make.mpr (.inr ((List.mem_singleton.mp hn).trans h.length))

end Sight

end RowAccess
