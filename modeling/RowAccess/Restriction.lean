import RowAccess.Predicate

/-!
# Restrictions

What there is to check for rows of a type: nothing, or a predicate. A predicate that was built is an
object with a serial number. Two restrictions with one serial number are the same object, so it shows
whether something was built again or kept. A predicate is applied to rows by taking out those that it
admits, one after another.
-/

namespace RowAccess

inductive Restriction
  | unrestricted
  | restricted (serial : Nat) (p : Predicate)
deriving DecidableEq

namespace Restriction

/-- The serial number of the predicate that stands for no restriction. -/
def openSerial : Nat := 0

def isUnrestricted : Restriction → Bool
  | unrestricted => true
  | restricted _ _ => false

/-- The predicate to apply. -/
def predicate : Restriction → Predicate
  | unrestricted => .always
  | restricted _ p => p

def serial : Restriction → Nat
  | unrestricted => openSerial
  | restricted n _ => n

/-- What is to be checked, whatever object it is. -/
def content : Restriction → Option Predicate
  | unrestricted => none
  | restricted _ p => some p

def admits (x : Restriction) (r : Row) : Bool :=
  match x.content with
  | none => true
  | some p => p.admits r

/-- A restriction narrowed by a predicate. -/
def narrow (content : Option Predicate) (p : Predicate) : Predicate :=
  match content with
  | none => p
  | some existing => .and existing p

end Restriction

/-! ### Rows that are let through -/

/-- Rows that are still to be looked at, and the predicate that lets rows through. -/
structure Admitted (α : Type) where
  predicate : Predicate
  pending : List α

namespace Admitted

variable {α : Type}

/-- The next row that is let through, and what is to be looked at after it. -/
def next? (row : α → Row) (s : Admitted α) : Option (α × Admitted α) :=
  match s.pending.dropWhile fun r => !s.predicate.admits (row r) with
  | [] => none
  | r :: rest => some (r, { s with pending := rest })

theorem next?_length {row : α → Row} {s rest : Admitted α} {r : α}
    (h : s.next? row = some (r, rest)) : rest.pending.length < s.pending.length := by
  unfold next? at h
  split at h
  next => cases h
  next r' rest' hd =>
    have hle := (List.dropWhile_sublist (fun r => !s.predicate.admits (row r)) (l := s.pending)).length_le
    rw [hd] at hle
    cases h
    exact hle

/-- All rows that are let through, in order. -/
def toList (row : α → Row) (s : Admitted α) : List α :=
  match h : s.next? row with
  | none => []
  | some (r, rest) =>
      have := next?_length h
      r :: toList row rest
termination_by s.pending.length

end Admitted

end RowAccess
