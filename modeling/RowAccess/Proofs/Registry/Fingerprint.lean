import Mathlib.Algebra.Ring.Nat
import Mathlib.Data.List.Basic
import Mathlib.Tactic.Common
import RowAccess.Registry.Fingerprint

/-!
# Fingerprints tell held tokens apart

Counts and lengths take eight bytes, so that tables whose counts and lengths are below two to the
sixty-fourth have the same fingerprint exactly if they hold the same tokens. Every piece of a fingerprint
can be read off the bytes that begin with it, whatever follows: `SelfDelimiting` says so of an encoding,
and each encoding is so because the one inside it is. This is about the bytes. A hash of them tells held
tokens apart as far as it has no collision.
-/

namespace RowAccess.Fingerprint

/-- What a count of eight bytes can count up to. -/
def countLimit : Nat := 256 ^ 8

/-- Whether the lengths of a token can be counted. -/
def FitsToken (token : String) : Prop := token.utf8ByteSize < countLimit

/-- Whether the number of tokens and their lengths can be counted. -/
structure FitsTokens (tokens : List String) : Prop where
  number : tokens.length < countLimit
  each : ∀ t ∈ tokens, FitsToken t

instance (tokens : List String) : Decidable (FitsTokens tokens) :=
  decidable_of_iff (tokens.length < countLimit ∧ ∀ t ∈ tokens, t.utf8ByteSize < countLimit)
    ⟨fun h => ⟨h.1, h.2⟩, fun h => ⟨h.number, h.each⟩⟩

/-- Whether the number of dimensions and what is held in each of them can be counted. -/
structure FitsHeld (held : List (String × List String)) : Prop where
  number : held.length < countLimit
  each : ∀ e ∈ held, FitsTokens e.2

instance (held : List (String × List String)) : Decidable (FitsHeld held) :=
  decidable_of_iff (held.length < countLimit ∧ ∀ e ∈ held, FitsTokens e.2)
    ⟨fun h => ⟨h.1, h.2⟩, fun h => ⟨h.number, h.each⟩⟩

/-- What begins with the code of a value begins with the code of no other value. -/
def SelfDelimiting {α : Type} (code : α → List UInt8) (fits : α → Prop) : Prop :=
  ∀ {a b : α} {r s : List UInt8}, fits a → fits b → code a ++ r = code b ++ s → a = b ∧ r = s

/-! ### Counts -/

theorem littleEndian_length (width n : Nat) : (littleEndian width n).length = width := by
  induction width generalizing n with
  | zero => rfl
  | succ width ih => simp [littleEndian, ih]

theorem littleEndian_inj {width n m : Nat} (hn : n < 256 ^ width) (hm : m < 256 ^ width)
    (h : littleEndian width n = littleEndian width m) : n = m := by
  induction width generalizing n m with
  | zero => simp at hn hm; omega
  | succ width ih =>
    rw [Nat.pow_succ] at hn hm
    obtain ⟨hlow, hhigh⟩ := List.cons_eq_cons.mp h
    have hq : n / 256 = m / 256 := ih (by omega) (by omega) hhigh
    have hr : n % 256 = m % 256 := by
      have hbyte := congrArg UInt8.toNat hlow
      simpa using hbyte
    omega

theorem count_selfDelimiting : SelfDelimiting count fun n => n < countLimit := by
  intro n m r s hn hm h
  obtain ⟨hcode, hrest⟩ := List.append_inj h (by simp [count, littleEndian_length])
  exact ⟨littleEndian_inj hn hm hcode, hrest⟩

/-! ### Tokens -/

theorem utf8_inj {t u : String} (h : t.toUTF8.data.toList = u.toUTF8.data.toList) : t = u := by
  apply String.toByteArray_inj.mp
  apply ByteArray.ext
  simpa using h

theorem ofToken_selfDelimiting : SelfDelimiting ofToken FitsToken := by
  intro t u r s ht hu h
  simp only [ofToken, List.append_assoc] at h
  obtain ⟨hsize, hrest⟩ := count_selfDelimiting ht hu h
  have hlen : t.toUTF8.data.toList.length = u.toUTF8.data.toList.length := by
    rw [Array.length_toList, Array.length_toList]
    exact hsize
  obtain ⟨hbytes, hrs⟩ := List.append_inj hrest hlen
  exact ⟨utf8_inj hbytes, hrs⟩

/-! ### Lists -/

/-- Codes with a divider between them can be read one by one where their number is known. -/
theorem divided_inj {α : Type} {code : α → List UInt8} {fits : α → Prop} {divider : UInt8}
    (hcode : SelfDelimiting code fits) :
    ∀ {as bs : List α} {r s : List UInt8}, as.length = bs.length → (∀ a ∈ as, fits a) →
      (∀ b ∈ bs, fits b) →
      divided divider (as.map code) ++ r = divided divider (bs.map code) ++ s → as = bs ∧ r = s
  | [], [], _, _, _, _, _, h => ⟨rfl, h⟩
  | [a], [b], _, _, _, ha, hb, h => by
      simp only [divided, List.map_cons, List.map_nil, List.intercalate_singleton] at h
      obtain ⟨rfl, hrs⟩ := hcode (ha a (by simp)) (hb b (by simp)) h
      exact ⟨rfl, hrs⟩
  | a :: a' :: as, b :: b' :: bs, r, s, hlen, ha, hb, h => by
      simp only [divided, List.map_cons, List.intercalate_cons_cons, List.append_assoc] at h
      obtain ⟨rfl, hrest⟩ := hcode (ha a (by simp)) (hb b (by simp)) h
      have htail : divided divider ((a' :: as).map code) ++ r =
          divided divider ((b' :: bs).map code) ++ s := List.append_cancel_left hrest
      obtain ⟨hmore, hrs⟩ := divided_inj hcode (by simpa using hlen)
        (fun x hx => ha x (List.mem_cons_of_mem _ hx))
        (fun x hx => hb x (List.mem_cons_of_mem _ hx)) htail
      exact ⟨by rw [hmore], hrs⟩

theorem ofTokens_selfDelimiting : SelfDelimiting ofTokens FitsTokens := by
  intro ts us r s ht hu h
  simp only [ofTokens, List.append_assoc] at h
  obtain ⟨hnumber, hrest⟩ := count_selfDelimiting ht.number hu.number h
  exact divided_inj ofToken_selfDelimiting hnumber ht.each hu.each hrest

section Held

variable {g h : List (String × List String)}

theorem map_ofTokens (held : List (String × List String)) :
    (held.map fun e => ofTokens e.2) = (held.map (·.2)).map ofTokens := by
  rw [List.map_map]
  rfl

/-- Tables over equally many dimensions with the same fingerprint hold the same tokens, dimension by
dimension. -/
theorem ofHeld_inj (hlen : g.length = h.length)
    (hg : ∀ e ∈ g, FitsTokens e.2) (hh : ∀ e ∈ h, FitsTokens e.2) (heq : ofHeld g = ofHeld h) :
    g.map (·.2) = h.map (·.2) := by
  simp only [ofHeld, hlen] at heq
  have hpieces := List.append_cancel_left heq
  rw [map_ofTokens, map_ofTokens] at hpieces
  refine (divided_inj (r := []) (s := []) ofTokens_selfDelimiting (by simpa using hlen) ?_ ?_
    (by simpa using hpieces)).1
  · intro ts hts
    obtain ⟨e, he, rfl⟩ := List.mem_map.mp hts
    exact hg e he
  · intro ts hts
    obtain ⟨e, he, rfl⟩ := List.mem_map.mp hts
    exact hh e he

/-- The number of dimensions can be read off a fingerprint. -/
theorem length_eq_of_ofHeld (hg : g.length < countLimit) (hh : h.length < countLimit) (heq : ofHeld g = ofHeld h) :
    g.length = h.length :=
  (count_selfDelimiting hg hh heq).1

/-- The names of the dimensions are not part of a fingerprint. -/
theorem ofHeld_congr (hsame : g.map (·.2) = h.map (·.2)) : ofHeld g = ofHeld h := by
  have hlen : g.length = h.length := by simpa using congrArg List.length hsame
  rw [ofHeld, ofHeld, map_ofTokens, map_ofTokens, hlen, hsame]

/-- Two tables whose counts and lengths can be counted have the same fingerprint exactly if they are over equally
many dimensions and hold, dimension by dimension, the same tokens in the same order, whatever characters the tokens
are made of. -/
theorem ofHeld_eq_iff (hg : FitsHeld g) (hh : FitsHeld h) :
    ofHeld g = ofHeld h ↔
      g.length = h.length ∧ ∀ i (hi : i < g.length) (hj : i < h.length), g[i].2 = h[i].2 := by
  constructor
  · intro heq
    have hlen := length_eq_of_ofHeld hg.number hh.number heq
    have hsame := ofHeld_inj hlen hg.each hh.each heq
    refine ⟨hlen, fun i hi hj => ?_⟩
    have hat : (g.map (·.2))[i]? = (h.map (·.2))[i]? := congrArg (·[i]?) hsame
    simpa [List.getElem?_eq_getElem hi, List.getElem?_eq_getElem hj] using hat
  · rintro ⟨hlen, hsame⟩
    refine ofHeld_congr (List.ext_getElem (by simpa using hlen) fun i hi hj => ?_)
    rw [List.getElem_map, List.getElem_map]
    exact hsame i (by simpa using hi) (by simpa using hj)

/-- Two tokens, and one token that is written like both with the divider and a length between them. -/
theorem ofHeld_eq_iff_imitated :
    FitsHeld [("tier", ["A", "B"])] ∧ FitsHeld [("tier", ["A+\x01\x00\x00\x00\x00\x00\x00\x00B"])] ∧
      ofHeld [("tier", ["A", "B"])] ≠ ofHeld [("tier", ["A+\x01\x00\x00\x00\x00\x00\x00\x00B"])] := by
  have htwo : FitsHeld [("tier", ["A", "B"])] := by decide
  have hone : FitsHeld [("tier", ["A+\x01\x00\x00\x00\x00\x00\x00\x00B"])] := by decide
  refine ⟨htwo, hone, fun heq => ?_⟩
  have htokens := ((ofHeld_eq_iff htwo hone).mp heq).2 0 (by decide) (by decide)
  exact absurd htokens (by decide)

end Held

end RowAccess.Fingerprint
