import Mathlib.Tactic.Common
import RowAccess.Value

/-!
# Equal values

Every value equals itself but one: what is not a number equals nothing. The value that a text is read as has the kind
that it was read for.
-/

namespace RowAccess

open RowAccess.Number (Binary64 Decimal)

/-! ### Equality of a value with itself -/

theorem Number.Binary64.equals_self_iff (x : Binary64) : x.equals x = true ↔ x ≠ .notANumber := by
  cases x with
  | finite negative mantissa exponent => simp [Binary64.equals]
  | infinite negative => simp [Binary64.equals]
  | notANumber => simp [Binary64.equals]

theorem Number.Decimal.equals_self (d : Decimal) : d.equals d = true := by simp [Decimal.equals]

namespace Value

/-- Every value equals itself, but for what is not a number. -/
theorem equals_self_iff (v : Value) : v.equals v = true ↔ v ≠ .binary64 .notANumber := by
  cases v with
  | text s => simp [equals]
  | whole w n => simp [equals]
  | bool b => simp [equals]
  | dateTime i => simp [equals]
  | binary64 x => simpa [equals] using x.equals_self_iff
  | decimal d => simp [equals, d.equals_self]
  | uuid u => simp [equals]

end Value

/-! ### Values that can be read -/

theorem Kind.coerce_eq_ok {k : Kind} {field text : String} {v : Value} :
    k.coerce field text = .ok v ↔ k.read? text = .ok v := by
  unfold coerce
  cases k.read? text <;> simp [Except.mapError]

theorem kind_of_map {α ε : Type} {result : Except ε α} {f : α → Value} {k : Kind} {v : Value}
    (hk : ∀ a, (f a).kind = k) (h : result.map f = .ok v) : v.kind = k := by
  cases result with
  | error e => cases h
  | ok a =>
    obtain rfl := Except.ok.inj h
    exact hk a

/-- A text is read as a value of the kind that it is read for. -/
theorem Kind.kind_of_read {k : Kind} {token : String} {v : Value} (h : k.read? token = .ok v) : v.kind = k := by
  unfold Kind.read? at h
  cases k with
  | text =>
    obtain rfl := Except.ok.inj h
    rfl
  | whole w => exact kind_of_map (fun _ => rfl) h
  | bool =>
    dsimp only at h
    split at h
    next =>
      obtain rfl := Except.ok.inj h
      rfl
    next => cases h
  | dateTime =>
    dsimp only at h
    split at h
    next =>
      obtain rfl := Except.ok.inj h
      rfl
    next => cases h
  | binary64 => exact kind_of_map (fun _ => rfl) h
  | decimal => exact kind_of_map (fun _ => rfl) h
  | uuid => exact kind_of_map (fun _ => rfl) h
  | binary => cases h
  | composite => cases h

/-- An instant that a token is read as was read from the text of the token. -/
theorem Kind.read?_instant {k : Kind} {token : String} {i : Calendar.Instant} (h : k.read? token = .ok (.dateTime i)) :
    Calendar.Instant.read? token.toList = some i := by
  obtain rfl : Kind.dateTime = k := Kind.kind_of_read h
  unfold Kind.read? at h
  dsimp only at h
  split at h
  next j hj =>
    obtain rfl := Value.dateTime.inj (Except.ok.inj h)
    exact hj
  next => cases h

/-- A text is coerced to the instant that is read from it. -/
theorem Kind.coerce_instant {field token : String} {i : Calendar.Instant}
    (h : Calendar.Instant.read? token.toList = some i) : Kind.dateTime.coerce field token = .ok (.dateTime i) := by
  refine Kind.coerce_eq_ok.mpr ?_
  simp only [Kind.read?, h]

theorem Kind.coerce_no_instant {field token : String} (h : Calendar.Instant.read? token.toList = none) :
    Kind.dateTime.coerce field token =
      .error (.valueCoercion field "date_time" token "unrecognized date-time format") := by
  simp only [Kind.coerce, Kind.read?, h]
  rfl

end RowAccess
