import Mathlib.Data.List.TakeWhile
import Mathlib.Tactic.Common
import RowAccess.Number.Decimal
import RowAccess.Proofs.Number.Digits

/-!
# Decimals that are read back

A decimal is written with all its digits and places, and there is room for all of them: nothing is rounded when they
are read. The number that is read has the places of the one that was written, but a zero has lost its sign.
-/

namespace RowAccess.Number.Decimal

/-- Digits for which there is room are taken one by one, behind the point as places. -/
theorem scan_digits {rest : List Char} : ∀ {ds : List Char} {p : Progress}, (∀ c ∈ ds, c.isDigit = true) →
    followedBy p.mantissa ds < mantissaLimit → (p.point = true → p.places + ds.length ≤ mostPlaces) →
    (p.point = false → p.places = 0) → p.admits = false →
      scan p (ds ++ rest) = scan ⟨followedBy p.mantissa ds, if p.point then p.places + ds.length else 0, p.point,
        p.digit || !ds.isEmpty, false⟩ rest
  | [], ⟨m, places, point, digit, admits⟩, _, _, _, hplaces, hadmits => by
      cases point with
      | true => simp_all
      | false => simp_all
  | c :: ds, p, hds, hroom, hfit, hplaces, hadmits => by
      obtain ⟨hc, hrest⟩ := List.forall_mem_cons.mp hds
      have hfull : p.full = false := by
        cases hpoint : p.point with
        | false => simp [Progress.full, hpoint]
        | true =>
          have hleft := hfit hpoint
          rw [List.length_cons] at hleft
          simp [Progress.full, hpoint, show ¬ mostPlaces ≤ p.places by omega]
      rw [followedBy_cons] at hroom
      have hnext : p.mantissa * 10 + digitValue c < mantissaLimit := Nat.lt_of_le_of_lt (le_followedBy _ ds) hroom
      rw [List.cons_append, scan, if_neg (by rw [hfull]; exact Bool.false_ne_true), if_pos hc]
      simp only [if_pos hnext]
      rw [scan_digits hrest hroom]
      · cases hpoint : p.point <;> simp [Nat.add_assoc, Nat.add_comm 1]
      · intro hpoint
        have hleft := hfit hpoint
        rw [List.length_cons] at hleft
        simp only [if_pos hpoint]
        omega
      · intro hpoint
        simp only at hpoint
        simp [hpoint]
      · rfl

/-- The digits before the point. -/
theorem scan_whole {ds rest : List Char} (hds : ∀ c ∈ ds, c.isDigit = true) (hne : ds ≠ [])
    (hroom : ofDigits ds < mantissaLimit) :
    scan .start (ds ++ rest) = scan ⟨ofDigits ds, 0, false, true, false⟩ rest := by
  rw [scan_digits hds (p := .start) hroom nofun (fun _ => rfl) rfl]
  simp [Progress.start, ← ofDigits_eq, List.isEmpty_eq_false_iff.mpr hne]

/-- The digits behind the point. -/
theorem scan_places {ds : List Char} {m : Nat} (hds : ∀ c ∈ ds, c.isDigit = true)
    (hroom : followedBy m ds < mantissaLimit) (hfit : ds.length ≤ mostPlaces) :
    scan ⟨m, 0, true, true, false⟩ ds = .ok ⟨followedBy m ds, ds.length, true, true, false⟩ := by
  rw [← List.append_nil ds, scan_digits hds hroom (fun _ => by rwa [Nat.zero_add]) (fun h => Bool.noConfusion h) rfl]
  simp [scan]

/-- A number without its sign as it is written. -/
def body (mantissa places : Nat) : List Char :=
  if places = 0 then digits mantissa
  else digits (mantissa / tenPower places) ++ '.' :: padded places (mantissa % tenPower places)

theorem text_eq (d : Decimal) :
    d.text = if d.negative then '-' :: body d.mantissa d.places else body d.mantissa d.places := rfl

theorem mem_body {mantissa places : Nat} {c : Char} (h : c ∈ body mantissa places) : c.isDigit = true ∨ c = '.' := by
  unfold body at h
  split at h
  next => exact .inl (isDigit_of_mem_digits h)
  next =>
    rcases List.mem_append.mp h with hwhole | hpart
    · exact .inl (isDigit_of_mem_digits hwhole)
    · rcases List.mem_cons.mp hpart with hpoint | hplaces
      · exact .inr hpoint
      · exact .inl (isDigit_of_mem_padded hplaces)

theorem mem_text {d : Decimal} {c : Char} (h : c ∈ d.text) : c.isDigit = true ∨ c = '.' ∨ c = '-' := by
  rw [text_eq] at h
  split at h
  next =>
    rcases List.mem_cons.mp h with hsign | hbody
    · exact .inr (.inr hsign)
    · exact (mem_body hbody).imp_right .inl
  next => exact (mem_body h).imp_right .inl

/-- What is written begins with a digit. -/
theorem body_eq_cons (mantissa places : Nat) : ∃ c rest, body mantissa places = c :: rest ∧ c.isDigit = true := by
  have hdigits : ∀ n, ∃ c rest, digits n = c :: rest ∧ c.isDigit = true := by
    intro n
    obtain ⟨c, rest, hcons⟩ := List.exists_cons_of_ne_nil (digits_ne_nil n)
    exact ⟨c, rest, hcons, isDigit_of_mem_digits (hcons ▸ List.mem_cons_self)⟩
  unfold body
  split
  next => exact hdigits mantissa
  next =>
    obtain ⟨c, rest, hcons, hc⟩ := hdigits (mantissa / tenPower places)
    exact ⟨c, _, by rw [hcons, List.cons_append], hc⟩

/-- All digits and places of a number that is written are read. -/
theorem scan_body {mantissa places : Nat} (hroom : mantissa < mantissaLimit) (hfit : places ≤ mostPlaces) :
    scan .start (body mantissa places) = .ok ⟨mantissa, places, places != 0, true, false⟩ := by
  unfold body
  split
  next hzero =>
    rw [← List.append_nil (digits mantissa), scan_whole (fun c => isDigit_of_mem_digits) (digits_ne_nil mantissa)
      (by rwa [ofDigits_digits]), ofDigits_digits, scan, hzero]
    rfl
  next hplaces =>
    have hwhole : mantissa / tenPower places < mantissaLimit := Nat.lt_of_le_of_lt (Nat.div_le_self _ _) hroom
    have hvalue : followedBy (mantissa / tenPower places) (padded places (mantissa % tenPower places)) = mantissa := by
      rw [followedBy_eq, length_padded, ofDigits_padded]
      exact (congrArg _ (Nat.mod_mod _ _)).trans (Nat.div_add_mod' mantissa (10 ^ places))
    rw [scan_whole (fun c => isDigit_of_mem_digits) (digits_ne_nil _) (by rwa [ofDigits_digits]), ofDigits_digits]
    rw [scan, if_neg (by simp [Progress.full]), if_neg (by decide), if_pos (by simp)]
    simp only
    rw [scan_places (fun c => isDigit_of_mem_padded) (by rwa [hvalue]) (by rwa [length_padded]), hvalue, length_padded,
      bne_iff_ne.mpr hplaces]

/-- The number without the sign of a zero. -/
def unsignedZero (d : Decimal) : Decimal := { d with negative := d.negative && d.mantissa != 0 }

theorem equals_unsignedZero (d : Decimal) : d.equals d.unsignedZero = true := by
  have hcoefficient : d.unsignedZero.coefficient = d.coefficient := by
    unfold coefficient unsignedZero
    cases d.negative <;> grind
  rw [equals, hcoefficient, beq_iff_eq]
  rfl

theorem readPlain?_text (d : Decimal) : readPlain? d.text = .ok d.unsignedZero := by
  obtain ⟨c, rest, hcons, hc⟩ := body_eq_cons d.mantissa d.places
  have hscan := scan_body d.mantissa_lt d.places_le
  have hmod : d.places % (mostPlaces + 1) = d.places := Nat.mod_eq_of_lt (Nat.lt_succ_of_le d.places_le)
  have hmake : ∀ negative, make? negative d.mantissa d.places =
      some ⟨negative, d.mantissa, d.places, d.mantissa_lt, d.places_le⟩ := by
    intro negative
    rw [make?, dif_pos ⟨d.mantissa_lt, d.places_le⟩]
  have hplus : c ≠ '+' := ne_of_isDigit hc (by decide)
  have hminus : c ≠ '-' := ne_of_isDigit hc (by decide)
  rw [text_eq, hcons]
  rw [hcons] at hscan
  cases hd : d.negative with
  | true => simp [readPlain?, hscan, hmod, hmake, unsignedZero, hd]
  | false => simp [readPlain?, hscan, hmod, hmake, unsignedZero, hd, hplus, hminus]

/-- A decimal is read back from what is written for it, but for the sign of a zero. -/
theorem read_text (d : Decimal) : read? d.text = .ok d.unsignedZero := by
  have hsplit : splitExponent d.text = (d.text, none) := by
    have hmark : ∀ c ∈ d.text, (!(c == 'e' || c == 'E')) = true := by
      intro c hc
      rcases mem_text hc with hdigit | rfl | rfl
      · have he : c ≠ 'e' := ne_of_isDigit hdigit (by decide)
        have hE : c ≠ 'E' := ne_of_isDigit hdigit (by decide)
        simp [he, hE]
      · decide
      · decide
    unfold splitExponent
    dsimp only
    rw [List.dropWhile_eq_nil_iff.mpr hmark]
  rw [read?, hsplit]
  exact readPlain?_text d

end RowAccess.Number.Decimal
