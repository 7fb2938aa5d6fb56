import RowAccess.Number.Digits

/-!
# Globs

A glob is matched against a whole text. A question mark stands for one character, an asterisk for any
characters, and a set between brackets for one of its characters, or for any other when it begins with
an exclamation mark. Two asterisks must fill the place between two separators: they stand for any
number of whole components.
-/

namespace RowAccess.Pattern.Glob

/-- What components of a text are separated by. -/
def separator : Char := '/'

/-- Why a text is no glob, with the position at fault. -/
inductive Fault
  | tooManyAsterisks (position : Nat)
  | partOfComponent (position : Nat)
  | openSet (position : Nat)
deriving Repr, DecidableEq

def Fault.position : Fault → Nat
  | tooManyAsterisks p => p
  | partOfComponent p => p
  | openSet p => p

def Fault.cause : Fault → String
  | tooManyAsterisks _ => "wildcards are either regular `*` or recursive `**`"
  | partOfComponent _ => "recursive wildcards must form a single path component"
  | openSet _ => "invalid range pattern"

def Fault.reason (f : Fault) : String :=
  "Pattern syntax error near position " ++ String.ofList (Number.digits f.position) ++ ": " ++ f.cause

/-- One part of a glob. -/
inductive Piece
  | literal (c : Char)
  | anyChar
  | anyText
  | anyComponents
  | oneOf (negated : Bool) (ranges : List (Char × Char))
deriving Repr, DecidableEq

/-! ### Reading -/

/-- The ranges of a set. A hyphen between two characters makes a range of them. -/
def setRanges : List Char → List (Char × Char)
  | lo :: '-' :: hi :: rest => (lo, hi) :: setRanges rest
  | c :: rest => (c, c) :: setRanges rest
  | [] => []

/-- The characters before the first closing bracket, and what follows it. -/
def untilBracket : List Char → Option (List Char × List Char)
  | [] => none
  | c :: rest =>
      if c = ']' then some ([], rest) else (untilBracket rest).map fun r => (c :: r.1, r.2)

theorem untilBracket_length {s body rest : List Char} (h : untilBracket s = some (body, rest)) :
    body.length + rest.length + 1 = s.length := by
  induction s generalizing body with
  | nil => simp [untilBracket] at h
  | cons c s ih =>
    by_cases hc : c = ']'
    · simp [untilBracket, hc] at h
      simp [← h.1, ← h.2]
    · simp only [untilBracket, hc, if_false, Option.map_eq_some_iff] at h
      obtain ⟨⟨b, r⟩, hr, heq⟩ := h
      cases heq
      have := ih hr
      simp only [List.length_cons] at this ⊢
      omega

/-- The inside of a set behind its opening bracket. Its first character is never the closing bracket. -/
def set? : List Char → Option (Piece × Nat × List Char)
  | '!' :: first :: rest =>
      (untilBracket rest).map fun r => (.oneOf true (setRanges (first :: r.1)), r.1.length + 4, r.2)
  | '!' :: [] => none
  | first :: rest =>
      (untilBracket rest).map fun r => (.oneOf false (setRanges (first :: r.1)), r.1.length + 3, r.2)
  | [] => none

theorem set?_length {s rest : List Char} {p : Piece} {n : Nat} (h : set? s = some (p, n, rest)) :
    rest.length < s.length := by
  unfold set? at h
  split at h <;> simp only [Option.map_eq_some_iff, reduceCtorEq] at h
  all_goals
    obtain ⟨⟨b, r⟩, hr, heq⟩ := h
    cases heq
    have := untilBracket_length hr
    simp only [List.length_cons] at this ⊢
    omega

/-- Reads the pieces from a position on, given the character before it. -/
def readFrom (position : Nat) (before : Option Char) : List Char → Except Fault (List Piece)
  | [] => .ok []
  | '?' :: rest => (readFrom (position + 1) (some '?') rest).map (.anyChar :: ·)
  | '*' :: '*' :: '*' :: _ => .error (.tooManyAsterisks (position + 2))
  | '*' :: '*' :: rest =>
      if before.all (· == separator) then
        match rest with
        | [] => .ok [.anyComponents]
        | c :: rest =>
            if c = separator then
              (readFrom (position + 3) (some separator) rest).map (.anyComponents :: ·)
            else .error (.partOfComponent (position + 2))
      else .error (.partOfComponent (position - 1))
  | '*' :: rest => (readFrom (position + 1) (some '*') rest).map (.anyText :: ·)
  | '[' :: rest =>
      match h : set? rest with
      | none => .error (.openSet position)
      | some (piece, width, after) =>
          have := set?_length h
          (readFrom (position + width) (some ']') after).map (piece :: ·)
  | c :: rest => (readFrom (position + 1) (some c) rest).map (.literal c :: ·)
termination_by s => s.length

/-- Reads a glob. -/
def read? (s : List Char) : Except Fault (List Piece) := readFrom 0 none s

/-! ### Matching -/

/-- How an attempt ends. When the text runs out before the glob does, no longer match of an earlier
piece can help. -/
inductive Outcome
  | matched
  | mismatch
  | ranOut
deriving Repr, DecidableEq

/-- The first outcome that is no mismatch. -/
def Outcome.orElse : Outcome → (Unit → Outcome) → Outcome
  | mismatch, other => other ()
  | o, _ => o

/-- Tries `next` behind each later character, or behind each later separator only. -/
def skipping (whole : Bool) (next : List Char → Outcome) : List Char → Outcome
  | [] => next []
  | c :: rest =>
      if whole && c != separator then skipping whole next rest
      else (next rest).orElse fun _ => skipping whole next rest

/-- One character, and then `next`. -/
def taking (accepts : Char → Bool) (next : List Char → Outcome) : List Char → Outcome
  | [] => .ranOut
  | c :: rest => if accepts c then next rest else .mismatch

def inRanges (ranges : List (Char × Char)) (c : Char) : Bool :=
  ranges.any fun r => r.1 ≤ c && c ≤ r.2

/-- Matches a text against pieces. -/
def outcome : List Piece → List Char → Outcome
  | [], text => if text.isEmpty then .matched else .mismatch
  | .literal c :: ps, text => taking (· == c) (outcome ps) text
  | .anyChar :: ps, text => taking (fun _ => true) (outcome ps) text
  | .oneOf negated ranges :: ps, text =>
      taking (fun c => inRanges ranges c != negated) (outcome ps) text
  | .anyText :: ps, text => (outcome ps text).orElse fun _ => skipping false (outcome ps) text
  | .anyComponents :: ps, text => (outcome ps text).orElse fun _ => skipping true (outcome ps) text

/-- True when the whole text matches. -/
def isMatch (glob : List Piece) (text : List Char) : Bool := outcome glob text == .matched

end RowAccess.Pattern.Glob
