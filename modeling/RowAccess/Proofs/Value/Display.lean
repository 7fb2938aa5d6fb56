import Mathlib.Data.Bool.AllAny
import Mathlib.Data.List.Basic
import Mathlib.Tactic.Common
import RowAccess.Proofs.Calendar.Text
import RowAccess.Proofs.Number.Decimal
import RowAccess.Proofs.Number.Whole
import RowAccess.Proofs.Token.Display
import RowAccess.Proofs.Uuid
import RowAccess.Proofs.Value

/-!
# Values as tokens

What is written for a value of most kinds is bare: letters and digits and the few marks of numbers and times. A bare
text is the token that allows it, and it is read as an equal value. Texts are different, since they are quoted, and so
are binary numbers.
-/

namespace RowAccess

open RowAccess.Calendar (Instant)

/-! ### Bare texts -/

/-- The characters that values are written in. -/
def Text.IsBare (c : Char) : Prop := c.isAlphanum = true ∨ c ∈ ['-', '+', '.', ':']

namespace Text

instance (c : Char) : Decidable (IsBare c) := inferInstanceAs (Decidable (_ ∨ _))

theorem IsBare.of_isDigit {c : Char} (h : c.isDigit = true) : IsBare c := .inl (Number.isAlphanum_of_isDigit h)

/-- A bare character is no blank and no mark of a token. -/
theorem IsBare.plain {c : Char} (h : IsBare c) : isBlank c = false ∧ c ≠ '!' ∧ c ≠ '*' := by
  rcases h with h | h
  · refine ⟨isBlank_of_isAlphanum h, ?_, ?_⟩
    · rintro rfl
      exact absurd h (by decide)
    · rintro rfl
      exact absurd h (by decide)
  · simp only [List.mem_cons, List.not_mem_nil, or_false] at h
    rcases h with rfl | rfl | rfl | rfl <;> decide

theorem trimmed_of_bare {s : List Char} (h : ∀ c ∈ s, IsBare c) : Trimmed s where
  first := fun c hc => (h c (List.mem_of_mem_head? hc)).plain.1
  last := fun c hc => (h c (List.mem_of_mem_getLast? hc)).plain.1

end Text

open Text (IsBare)

/-- A bare text is the token that allows it. -/
theorem Token.parse_of_bare {s : List Char} (h : ∀ c ∈ s, IsBare c) :
    parse (String.ofList s) = .allow (String.ofList s) := by
  rw [parse_eq_iff]
  refine ⟨?_, ?_⟩
  · rw [display, String.toList_ofList]
    exact (Text.trimmed_of_bare h).trim_eq
  · rw [Unmistakable, String.toList_ofList]
    constructor
    · intro hmark
      exact (h _ (List.mem_of_mem_head? hmark)).plain.2.1 rfl
    · rintro rfl
      exact (h '*' List.mem_cons_self).plain.2.2 rfl

/-! ### Bare values -/

theorem Number.Whole.bare_text {w : Number.Width} {n : Number.Whole w} : ∀ c ∈ n.text, IsBare c := by
  intro c hc
  unfold Number.Whole.text Number.signed at hc
  split at hc
  next =>
    rcases List.mem_cons.mp hc with rfl | hdigits
    · exact .inr (by decide)
    · exact .of_isDigit (Number.isDigit_of_mem_digits hdigits)
  next => exact .of_isDigit (Number.isDigit_of_mem_digits hc)

theorem Number.Decimal.bare_text {d : Number.Decimal} : ∀ c ∈ d.text, IsBare c := by
  intro c hc
  rcases mem_text hc with hdigit | rfl | rfl
  · exact .of_isDigit hdigit
  · exact .inr (by decide)
  · exact .inr (by decide)

theorem Uuid.bare_text {u : Uuid} : ∀ c ∈ u.text, IsBare c := by
  intro c hc
  rcases mem_text hc with halphanum | rfl
  · exact .inl halphanum
  · exact .inr (by decide)

theorem Calendar.Instant.bare_fraction {part : Nat} : ∀ c ∈ fractionText part, IsBare c := by
  have hplaces : ∀ {width n : Nat}, ∀ c ∈ '.' :: Number.padded width n, IsBare c := by
    intro width n c hc
    rcases List.mem_cons.mp hc with rfl | hdigits
    · exact .inr (by decide)
    · exact .of_isDigit (Number.isDigit_of_mem_padded hdigits)
  intro c hc
  unfold fractionText at hc
  split at hc
  next => cases hc
  next => split at hc <;> [skip; split at hc] <;> exact hplaces c hc

theorem Calendar.Instant.bare_text {i : Instant} (hleast : 0 ≤ i.date.year) (hgreatest : i.date.year ≤ 9999) :
    ∀ c ∈ i.text, IsBare c := by
  have hdigits : ∀ {width n : Nat}, ∀ c ∈ Number.padded width n, IsBare c :=
    fun c hc => .of_isDigit (Number.isDigit_of_mem_padded hc)
  have hhyphen : IsBare '-' := by decide
  have hletter : IsBare 'T' := by decide
  have hcolon : IsBare ':' := by decide
  have hoffset : ∀ c ∈ "+00:00".toList, IsBare c := List.all_iff_forall_prop.mp (by decide)
  rw [text_eq hleast hgreatest]
  unfold Calendar.Stamp.dayText Calendar.Stamp.timeText
  simp only [List.forall_mem_append, List.forall_mem_cons]
  exact ⟨⟨⟨hdigits, hhyphen, hdigits⟩, hhyphen, hdigits⟩, hletter,
    ⟨⟨hdigits, hcolon, hdigits⟩, hcolon, hdigits⟩, bare_fraction, hoffset⟩

namespace Value

/-- The values of which the text is bare. An instant is one if its year has four digits. -/
def IsPlain : Value → Prop
  | text _ => False
  | dateTime i => 0 ≤ i.date.year ∧ i.date.year ≤ 9999
  | binary64 _ => False
  | _ => True

theorem bare_textChars {v : Value} (h : v.IsPlain) : ∀ c ∈ v.textChars, IsBare c := by
  cases v with
  | text s => cases h
  | whole w n => exact n.bare_text
  | bool b => cases b <;> exact List.all_iff_forall_prop.mp (by decide)
  | dateTime i => exact i.bare_text h.1 h.2
  | binary64 x => cases h
  | decimal d => exact d.bare_text
  | uuid u => exact u.bare_text

/-- A plain value is read back from its text as an equal one. Where it is an instant, a leap second must stand at the
end of a minute. -/
theorem read_display {v : Value} (h : v.IsPlain) (hleap : ∀ i, v = .dateTime i → i.Proper) :
    ∃ w, v.kind.read? v.display = .ok w ∧ v.equals w = true := by
  have hself : v.equals v = true := by
    refine v.equals_self_iff.mpr ?_
    rintro rfl
    exact h
  cases v with
  | text s => cases h
  | whole w n =>
    refine ⟨.whole w n, ?_, hself⟩
    simp only [kind, display, textChars, Kind.read?, String.toList_ofList, n.read_text]
    rfl
  | bool b =>
    refine ⟨.bool b, ?_, hself⟩
    cases b <;> rfl
  | dateTime i =>
    refine ⟨.dateTime i, ?_, hself⟩
    simp only [kind, display, textChars, Kind.read?, String.toList_ofList, Instant.read_text h.1 h.2 (hleap i rfl)]
  | binary64 x => cases h
  | decimal d =>
    refine ⟨.decimal d.unsignedZero, ?_, d.equals_unsignedZero⟩
    simp only [kind, display, textChars, Kind.read?, String.toList_ofList, d.read_text]
    rfl
  | uuid u =>
    refine ⟨.uuid u, ?_, hself⟩
    simp only [kind, display, textChars, Kind.read?, String.toList_ofList, u.read_text]
    rfl

end Value

/-! ### Tokens of values -/

/-- The kinds of which all values are written as bare texts. -/
def Kind.plain : List Kind := [.whole .u8, .whole .i16, .whole .i32, .whole .i64, .bool, .decimal, .uuid, .dateTime]

/-- What is written for a value of a plain kind that a token was read as is trimmed, is read as the token that allows
it, and is read as a value equal to the first, whichever field it is read for. An instant must have a year of four
digits in universal time. -/
theorem displayed_value_read (k : Kind) (hkind : k ∈ Kind.plain) (field token : String) (v : Value)
    (hv : k.coerce field token = .ok v)
    (hyear : ∀ i, v = .dateTime i → 0 ≤ i.date.year ∧ i.date.year ≤ 9999) :
    Text.Trimmed v.display.toList ∧ Token.parse v.display = .allow v.display ∧
      ∀ field', ∃ w, k.coerce field' v.display = .ok w ∧ v.equals w = true := by
  have hread : k.read? token = .ok v := Kind.coerce_eq_ok.mp hv
  have hsame : v.kind = k := Kind.kind_of_read hread
  have hplain : v.IsPlain := by
    subst hsame
    cases v with
    | text s => exact absurd hkind (show Kind.text ∉ Kind.plain by decide)
    | dateTime i => exact hyear i rfl
    | binary64 x => exact absurd hkind (show Kind.binary64 ∉ Kind.plain by decide)
    | whole w n => trivial
    | bool b => trivial
    | decimal d => trivial
    | uuid u => trivial
  have hbare := Value.bare_textChars hplain
  refine ⟨?_, Token.parse_of_bare hbare, fun field' => ?_⟩
  · rw [Value.display, String.toList_ofList]
    exact Text.trimmed_of_bare hbare
  · have hleap : ∀ i, v = .dateTime i → i.Proper := by
      rintro i rfl
      exact Instant.proper_of_read (Kind.read?_instant hread)
    obtain ⟨w, hw, hequal⟩ := Value.read_display hplain hleap
    rw [hsame] at hw
    exact ⟨w, Kind.coerce_eq_ok.mpr hw, hequal⟩

/-- A quarter into the leap second at the end of 2016. -/
def leapSecond2016 : Instant where
  date := ⟨2016, 12, 31, by decide, by decide, by decide, by decide⟩
  second := 86399
  nanosecond := 1250000000
  second_lt := by decide
  nanosecond_lt := by decide

theorem displayed_value_read_leapSecond :
    Kind.dateTime.coerce "seen" "2017-01-01T05:29:60.25+05:30" = .ok (.dateTime leapSecond2016) ∧
    (Value.dateTime leapSecond2016).display = "2016-12-31T23:59:60.250+00:00" ∧
    Text.Trimmed "2016-12-31T23:59:60.250+00:00".toList ∧
    Token.parse "2016-12-31T23:59:60.250+00:00" = .allow "2016-12-31T23:59:60.250+00:00" ∧
    ∀ field', ∃ w, Kind.dateTime.coerce field' "2016-12-31T23:59:60.250+00:00" = .ok w ∧
      (Value.dateTime leapSecond2016).equals w = true := by
  have hread : Kind.dateTime.coerce "seen" "2017-01-01T05:29:60.25+05:30" = .ok (.dateTime leapSecond2016) :=
    Kind.coerce_instant (by decide +kernel)
  have hshown : (Value.dateTime leapSecond2016).display = "2016-12-31T23:59:60.250+00:00" := by decide +kernel
  have hyear : ∀ i, Value.dateTime leapSecond2016 = .dateTime i → 0 ≤ i.date.year ∧ i.date.year ≤ 9999 := by
    rintro i ⟨⟩
    decide
  have hdisplayed := displayed_value_read .dateTime (by decide) "seen" "2017-01-01T05:29:60.25+05:30"
    (.dateTime leapSecond2016) hread hyear
  rw [hshown] at hdisplayed
  exact ⟨hread, hshown, hdisplayed⟩

end RowAccess
