import Mathlib.Data.List.Basic
import Mathlib.Tactic.Common
import RowAccess.Predicate
import RowAccess.Proofs.Text.Quoted

/-!
# Predicates that are told apart by their texts

The text of a predicate shows its tree, whatever its names are and whatever stands in the texts that it compares with.
A part of a predicate begins with a parenthesis or with a word of names and points, and what stands right behind the
word tells comparisons from all other parts: `opening` is this beginning. It is read in the same way however the text
goes on, and so are the parts inside.
-/

namespace RowAccess

/-! ### Names -/

namespace Text

def isNameChar (c : Char) : Bool := c.isAlphanum || c == '_'

/-- A letter or an underscore, and then letters, digits and underscores. -/
def isName (s : String) : Bool :=
  match s.toList with
  | [] => false
  | c :: rest => (c.isAlpha || c == '_') && rest.all isNameChar

theorem isName_spec {s : String} (h : isName s = true) : s.toList ≠ [] ∧ ∀ c ∈ s.toList, isNameChar c = true := by
  unfold isName at h
  split at h
  next => cases h
  next c rest hs =>
    obtain ⟨hc, hrest⟩ := Bool.and_eq_true_iff.mp h
    have hfirst : isNameChar c = true := by
      rcases Bool.or_eq_true_iff.mp hc with halpha | hunder
      · rw [isNameChar, Char.isAlphanum, halpha, Bool.true_or, Bool.true_or]
      · rw [isNameChar, hunder, Bool.or_true]
    rw [hs]
    exact ⟨List.cons_ne_nil _ _, List.forall_mem_cons.mpr ⟨hfirst, fun d hd => List.all_eq_true.mp hrest d hd⟩⟩

/-- Names are told apart by what they are written as, if something else stands behind them, or nothing. -/
theorem name_inj {name name' : String} {rest rest' : List Char} (hname : isName name = true)
    (hname' : isName name' = true) (hrest : ∀ c, rest.head? = some c → isNameChar c = false)
    (hrest' : ∀ c, rest'.head? = some c → isNameChar c = false)
    (h : name.toList ++ rest = name'.toList ++ rest') : name = name' ∧ rest = rest' := by
  obtain ⟨hsame, hend⟩ := word_inj (isName_spec hname).2 (isName_spec hname').2 hrest hrest' h
  exact ⟨String.toList_inj.mp hsame, hend⟩

end Text

open Text (isName isNameChar isName_spec)

/-! ### Paths -/

namespace FieldPath

/-- All edges of a path are names, and so is its field. -/
def Named (p : FieldPath) : Prop := (∀ edge ∈ p.edges, isName edge = true) ∧ isName p.field = true

theorem not_nameChar_point (rest : List Char) : ∀ c, ('.' :: rest).head? = some c → isNameChar c = false := by
  rintro c ⟨⟩
  decide

theorem segments_inj {field field' : String} (hfield : isName field = true) (hfield' : isName field' = true) :
    ∀ {edges edges' : List String}, (∀ edge ∈ edges, isName edge = true) → (∀ edge ∈ edges', isName edge = true) →
      edges.flatMap (fun edge => edge.toList ++ ['.']) ++ field.toList =
        edges'.flatMap (fun edge => edge.toList ++ ['.']) ++ field'.toList → edges = edges' ∧ field = field'
  | [], [], _, _, h => ⟨rfl, String.toList_inj.mp h⟩
  | [], edge' :: edges', _, hedges', h => by
      -- The field has no point, but there is one behind the edge.
      obtain ⟨hedge', -⟩ := List.forall_mem_cons.mp hedges'
      rw [List.flatMap_nil, List.nil_append, List.flatMap_cons, List.append_assoc, List.append_assoc,
        ← List.append_nil field.toList] at h
      cases (Text.name_inj hfield hedge' (by rintro c ⟨⟩) (not_nameChar_point _) h).2
  | edge :: edges, [], hedges, _, h => by
      obtain ⟨hedge, -⟩ := List.forall_mem_cons.mp hedges
      rw [List.flatMap_nil, List.nil_append, List.flatMap_cons, List.append_assoc, List.append_assoc,
        ← List.append_nil field'.toList] at h
      cases (Text.name_inj hedge hfield' (not_nameChar_point _) (by rintro c ⟨⟩) h).2
  | edge :: edges, edge' :: edges', hedges, hedges', h => by
      obtain ⟨hedge, hrest⟩ := List.forall_mem_cons.mp hedges
      obtain ⟨hedge', hrest'⟩ := List.forall_mem_cons.mp hedges'
      rw [List.flatMap_cons, List.flatMap_cons, List.append_assoc, List.append_assoc, List.append_assoc,
        List.append_assoc] at h
      obtain ⟨hsame, hmore⟩ := Text.name_inj hedge hedge' (not_nameChar_point _) (not_nameChar_point _) h
      obtain ⟨hedges, hfields⟩ := segments_inj hfield hfield' hrest hrest' (List.cons.inj hmore).2
      exact ⟨congrArg₂ _ hsame hedges, hfields⟩

/-- Paths of names are told apart by their texts. -/
theorem textChars_inj {p q : FieldPath} (hp : p.Named) (hq : q.Named) (h : p.textChars = q.textChars) : p = q := by
  obtain ⟨hedges, hfield⟩ := segments_inj hp.2 hq.2 hp.1 hq.1 h
  cases p
  cases q
  cases hedges
  cases hfield
  rfl

end FieldPath

/-! ### Beginnings of parts -/

/-- The characters of words: those of names, and the points between them. -/
def Text.isWordChar (c : Char) : Bool := isNameChar c || c == '.'

open Text (isWordChar)

theorem FieldPath.isWordChar_of_mem {p : FieldPath} (hp : p.Named) {c : Char} (h : c ∈ p.textChars) :
    isWordChar c = true := by
  have hname : ∀ {s : String}, isName s = true → c ∈ s.toList → isWordChar c = true := by
    intro s hs hc
    rw [isWordChar, (isName_spec hs).2 c hc, Bool.true_or]
  rcases List.mem_append.mp h with hedges | hfield
  · obtain ⟨edge, hedge, hc⟩ := List.mem_flatMap.mp hedges
    rcases List.mem_append.mp hc with hc | hpoint
    · exact hname (hp.1 edge hedge) hc
    · rw [List.mem_singleton.mp hpoint]
      decide
  · exact hname hp.2 hfield

theorem FieldPath.textChars_ne_nil {p : FieldPath} (hp : p.Named) : p.textChars ≠ [] :=
  List.append_ne_nil_of_right_ne_nil _ (isName_spec hp.2).1

namespace Predicate

/-- All paths are made of names, and all values are texts. -/
def Readable : Predicate → Prop
  | always => True
  | never => True
  | equals path value => path.Named ∧ ∃ s, value = .text s
  | not p => p.Readable
  | and p q => p.Readable ∧ q.Readable
  | or p q => p.Readable ∧ q.Readable

/-- What is written for a part of a predicate. -/
def part (p : Predicate) : List Char := p.operand p.textChars

/-- How a part of a predicate begins: with a parenthesis, or with a word and perhaps the mark of a comparison. -/
inductive Opening
  | parenthesis
  | word (chars : List Char) (compared : Bool)
deriving DecidableEq

/-- The beginning of a text. -/
def openingOf (s : List Char) : Opening :=
  if s.head? = some '(' then .parenthesis
  else .word (s.takeWhile isWordChar) ((s.dropWhile isWordChar).take 2 == [' ', '='])

/-- The beginning of a part. -/
def opening : Predicate → Opening
  | always => .word "TRUE".toList false
  | never => .word "FALSE".toList false
  | equals path _ => .word path.textChars true
  | not _ => .word "NOT".toList false
  | and _ _ => .parenthesis
  | or _ _ => .parenthesis

/-- What can stand behind a part: nothing, the end of parentheses, or a connective. -/
inductive Behind : List Char → Prop
  | nothing : Behind []
  | close (rest : List Char) : Behind (')' :: rest)
  | connective {c : Char} (hc : c ≠ '=') (rest : List Char) : Behind (' ' :: c :: rest)

variable {p q : Predicate} {rest rest' : List Char}

theorem Behind.head (h : Behind rest) : ∀ c, rest.head? = some c → isWordChar c = false := by
  cases h <;> rintro c ⟨⟩ <;> decide

theorem Behind.not_compared (h : Behind rest) : (rest.take 2 == [' ', '=']) = false := by
  cases h with
  | nothing => rfl
  | close rest => cases rest <;> rfl
  | connective hc rest => simp [hc]

theorem openingOf_word {word : List Char} (hne : word ≠ []) (hword : ∀ c ∈ word, isWordChar c = true)
    (hrest : ∀ c, rest.head? = some c → isWordChar c = false) :
    openingOf (word ++ rest) = .word word (rest.take 2 == [' ', '=']) := by
  have hfirst : (word ++ rest).head? ≠ some '(' := by
    obtain ⟨c, more, rfl⟩ := List.exists_cons_of_ne_nil hne
    intro hc
    have hc' := hword c List.mem_cons_self
    rw [Option.some.inj hc] at hc'
    cases hc'
  rw [openingOf, if_neg hfirst, Text.takeWhile_word hword hrest, Text.dropWhile_word hword hrest]

theorem part_equals (path : FieldPath) (value : Value) :
    (equals path value).part = path.textChars ++ (" == ".toList ++ value.textChars) := List.append_assoc _ _ _

theorem part_not (p : Predicate) : (not p).part = "NOT".toList ++ ' ' :: p.part := rfl

/-- A conjunction, or else an alternative. -/
def joined (both : Bool) (p q : Predicate) : Predicate := if both then and p q else or p q

/-- What is written between the parts. -/
def connective (both : Bool) : List Char := if both then " AND ".toList else " OR ".toList

theorem textChars_joined (both : Bool) (p q : Predicate) :
    (joined both p q).textChars = p.part ++ (connective both ++ q.part) := by
  cases both <;> exact List.append_assoc _ _ _

theorem part_joined (both : Bool) (p q : Predicate) :
    (joined both p q).part = '(' :: (p.part ++ (connective both ++ (q.part ++ [')']))) := by
  have hpart : (joined both p q).part = '(' :: (joined both p q).textChars ++ [')'] := by cases both <;> rfl
  rw [hpart, textChars_joined, List.cons_append, List.append_assoc, List.append_assoc]

theorem behind_connective (both : Bool) (rest : List Char) : Behind (connective both ++ rest) := by
  cases both <;> exact .connective (by decide) _

theorem connective_inj {both both' : Bool} (h : connective both ++ rest = connective both' ++ rest') :
    both = both' ∧ rest = rest' := by
  have hletter : ∀ (k : Bool) (more : List Char), (connective k ++ more)[1]? = some (if k then 'A' else 'O') := by
    intro k more
    cases k <;> rfl
  have hsame : both = both' := by
    have hletters := congrArg (fun s => s[1]?) h
    rw [hletter, hletter] at hletters
    revert hletters
    cases both <;> cases both' <;> decide
  subst hsame
  exact ⟨rfl, List.append_cancel_left h⟩

/-- No part begins like the mark of a comparison. -/
theorem part_eq_cons (hp : p.Readable) : ∃ c more, p.part = c :: more ∧ c ≠ '=' := by
  cases p with
  | always => exact ⟨'T', _, rfl, by decide⟩
  | never => exact ⟨'F', _, rfl, by decide⟩
  | equals path value =>
    obtain ⟨c, more, hcons⟩ := List.exists_cons_of_ne_nil (FieldPath.textChars_ne_nil hp.1)
    have hc : isWordChar c = true := FieldPath.isWordChar_of_mem hp.1 (hcons ▸ List.mem_cons_self)
    refine ⟨c, _, by rw [part_equals, hcons, List.cons_append], ?_⟩
    rintro rfl
    cases hc
  | not p => exact ⟨'N', _, rfl, by decide⟩
  | and p q => exact ⟨'(', _, part_joined true p q, by decide⟩
  | or p q => exact ⟨'(', _, part_joined false p q, by decide⟩

/-- A part begins in the same way whatever stands behind it. -/
theorem openingOf_part (hp : p.Readable) (hrest : Behind rest) : openingOf (p.part ++ rest) = p.opening := by
  have hword : ∀ word : List Char, word ≠ [] → (∀ c ∈ word, isWordChar c = true) →
      openingOf (word ++ rest) = .word word false := by
    intro word hne hchars
    rw [openingOf_word hne hchars hrest.head, hrest.not_compared]
  cases p with
  | always => exact hword "TRUE".toList (by decide) (List.all_eq_true.mp (by decide))
  | never => exact hword "FALSE".toList (by decide) (List.all_eq_true.mp (by decide))
  | equals path value =>
    rw [part_equals, List.append_assoc]
    exact openingOf_word (FieldPath.textChars_ne_nil hp.1) (fun c => FieldPath.isWordChar_of_mem hp.1)
      (by rintro c ⟨⟩; decide)
  | not p =>
    obtain ⟨c, more, hcons, hc⟩ := part_eq_cons (p := p) hp
    have hopening : openingOf ("NOT".toList ++ (' ' :: c :: (more ++ rest))) =
        .word "NOT".toList ((' ' :: c :: (more ++ rest)).take 2 == [' ', '=']) :=
      openingOf_word (by decide) (List.all_eq_true.mp (by decide)) (by rintro d ⟨⟩; decide)
    rw [part_not, hcons, List.append_assoc]
    refine hopening.trans ?_
    simp [opening, hc]
  | and p q => rfl
  | or p q => rfl

/-! ### Parts that are told apart -/

/-- Parts begin in the same way where the texts are the same. -/
theorem opening_eq (hp : p.Readable) (hq : q.Readable) (hrest : Behind rest) (hrest' : Behind rest')
    (h : p.part ++ rest = q.part ++ rest') : q.opening = p.opening := by
  rw [← openingOf_part hp hrest, h, openingOf_part hq hrest']

theorem eq_always_of_opening (h : p.opening = opening always) : p = always := by
  cases p with
  | always => rfl
  | _ => simp [opening] at h

theorem eq_never_of_opening (h : p.opening = opening never) : p = never := by
  cases p with
  | never => rfl
  | _ => simp [opening] at h

theorem equals_of_opening {path : FieldPath} {value : Value} (h : p.opening = opening (equals path value)) :
    ∃ path' value', p = equals path' value' ∧ path'.textChars = path.textChars := by
  cases p with
  | equals path' value' =>
    simp only [opening, Opening.word.injEq] at h
    exact ⟨path', value', rfl, h.1⟩
  | _ => simp [opening] at h

theorem not_of_opening {q : Predicate} (h : p.opening = opening (not q)) : ∃ q', p = not q' := by
  cases p with
  | not q' => exact ⟨q', rfl⟩
  | _ => simp [opening] at h

theorem joined_of_opening (h : p.opening = .parenthesis) : ∃ both a b, p = joined both a b := by
  cases p with
  | and a b => exact ⟨true, a, b, rfl⟩
  | or a b => exact ⟨false, a, b, rfl⟩
  | _ => simp [opening] at h

theorem readable_joined {both : Bool} {a b : Predicate} (h : (joined both a b).Readable) : a.Readable ∧ b.Readable := by
  cases both <;> exact h

/-- The part tells itself and where it ends. -/
structure Separates (p : Predicate) : Prop where
  tells : ∀ {q : Predicate} {rest rest' : List Char}, q.Readable → Behind rest → Behind rest' →
    p.part ++ rest = q.part ++ rest' → p = q ∧ rest = rest'

/-- Two parts with a connective between them tell both of them, and the connective. -/
theorem Separates.pair {both both' : Bool} {a b c d : Predicate} (ha : a.Separates) (hb : b.Separates)
    (hc : c.Readable) (hd : d.Readable) (hrest : Behind rest) (hrest' : Behind rest')
    (h : a.part ++ (connective both ++ (b.part ++ rest)) = c.part ++ (connective both' ++ (d.part ++ rest'))) :
    joined both a b = joined both' c d ∧ rest = rest' := by
  obtain ⟨rfl, hmore⟩ := ha.tells hc (behind_connective _ _) (behind_connective _ _) h
  obtain ⟨rfl, hsecond⟩ := connective_inj hmore
  obtain ⟨rfl, hend⟩ := hb.tells hd hrest hrest' hsecond
  exact ⟨rfl, hend⟩

theorem Separates.joined {both : Bool} {a b : Predicate} (ha : a.Separates) (hb : b.Separates) :
    (joined both a b).Separates := by
  refine ⟨fun {q rest rest'} hq hrest hrest' h => ?_⟩
  have hopening : q.opening = .parenthesis := by
    rw [← openingOf_part hq hrest', ← h, part_joined]
    rfl
  obtain ⟨both', c, d, rfl⟩ := joined_of_opening hopening
  obtain ⟨hc, hd⟩ := readable_joined hq
  rw [part_joined, part_joined] at h
  simp only [List.cons_append, List.append_assoc] at h
  obtain ⟨hsame, hend⟩ := ha.pair hb hc hd (.close rest) (.close rest') (List.cons.inj h).2
  exact ⟨hsame, (List.cons.inj hend).2⟩

theorem separates (hp : p.Readable) : p.Separates := by
  induction p with
  | always =>
    refine ⟨fun {q rest rest'} hq hrest hrest' h => ?_⟩
    obtain rfl := eq_always_of_opening (opening_eq hp hq hrest hrest' h)
    exact ⟨rfl, List.append_cancel_left h⟩
  | never =>
    refine ⟨fun {q rest rest'} hq hrest hrest' h => ?_⟩
    obtain rfl := eq_never_of_opening (opening_eq hp hq hrest hrest' h)
    exact ⟨rfl, List.append_cancel_left h⟩
  | equals path value =>
    refine ⟨fun {q rest rest'} hq hrest hrest' h => ?_⟩
    obtain ⟨path', value', rfl, hpath⟩ := equals_of_opening (opening_eq hp hq hrest hrest' h)
    obtain ⟨hnamed, s, rfl⟩ := hp
    obtain ⟨hnamed', s', rfl⟩ := hq
    obtain rfl := FieldPath.textChars_inj hnamed' hnamed hpath
    rw [part_equals, part_equals, List.append_assoc, List.append_assoc, List.append_assoc, List.append_assoc] at h
    obtain ⟨hs, hend⟩ := Text.quoted_inj (List.append_cancel_left (List.append_cancel_left h))
    obtain rfl := String.toList_inj.mp hs
    exact ⟨rfl, hend⟩
  | not p ih =>
    refine ⟨fun {q rest rest'} hq hrest hrest' h => ?_⟩
    obtain ⟨q', rfl⟩ := not_of_opening (opening_eq hp hq hrest hrest' h)
    rw [part_not, part_not, List.append_assoc, List.append_assoc] at h
    have hq' : q'.Readable := hq
    obtain ⟨hsame, hend⟩ := (ih hp).tells hq' hrest hrest' (List.cons.inj (List.append_cancel_left h)).2
    exact ⟨congrArg not hsame, hend⟩
  | and a b iha ihb =>
    have hjoined : (Predicate.joined true a b).Separates := (iha hp.1).joined (ihb hp.2)
    exact hjoined
  | or a b iha ihb =>
    have hjoined : (Predicate.joined false a b).Separates := (iha hp.1).joined (ihb hp.2)
    exact hjoined

theorem part_of_simple (h : p.isCompound = false) : p.part = p.textChars := by rw [part, operand, h]; rfl

theorem joined_of_compound (h : p.isCompound = true) : ∃ both a b, p = joined both a b := by
  cases p with
  | and a b => exact ⟨true, a, b, rfl⟩
  | or a b => exact ⟨false, a, b, rfl⟩
  | _ => cases h

/-- A predicate with a connective outside is not written like one without. -/
theorem textChars_ne (hp : p.Readable) (hq : q.Readable) (hcompound : p.isCompound = true)
    (hsimple : q.isCompound = false) : p.textChars ≠ q.textChars := by
  intro h
  obtain ⟨both, a, b, rfl⟩ := joined_of_compound hcompound
  obtain ⟨ha, -⟩ := readable_joined hp
  rw [textChars_joined, ← part_of_simple hsimple, ← List.append_nil q.part] at h
  have hend := ((separates ha).tells hq (behind_connective _ _) .nothing h).2
  cases both <;> cases hend

theorem eq_of_textChars (hp : p.Readable) (hq : q.Readable) (h : p.textChars = q.textChars) : p = q := by
  cases hcompound : p.isCompound with
  | true =>
    cases hcompound' : q.isCompound with
    | true =>
      obtain ⟨both, a, b, rfl⟩ := joined_of_compound hcompound
      obtain ⟨both', c, d, rfl⟩ := joined_of_compound hcompound'
      obtain ⟨ha, hb⟩ := readable_joined hp
      obtain ⟨hc, hd⟩ := readable_joined hq
      rw [textChars_joined, textChars_joined, ← List.append_nil b.part, ← List.append_nil d.part] at h
      exact ((separates ha).pair (separates hb) hc hd .nothing .nothing h).1
    | false => exact absurd h (textChars_ne hp hq hcompound hcompound')
  | false =>
    cases hcompound' : q.isCompound with
    | true => exact absurd h.symm (textChars_ne hq hp hcompound' hcompound)
    | false =>
      rw [← part_of_simple hcompound, ← part_of_simple hcompound', ← List.append_nil p.part,
        ← List.append_nil q.part] at h
      exact ((separates hp).tells hq .nothing .nothing h).1

/-- Predicates of names and texts are the same tree exactly if they are written alike. -/
theorem display_eq_iff (p q : Predicate) (hp : p.Readable) (hq : q.Readable) : p.display = q.display ↔ p = q := by
  constructor
  · intro h
    exact eq_of_textChars hp hq (String.ofList_injective h)
  · rintro rfl
    rfl

/-- A comparison with a text that holds quotes and a connective. -/
def quotesInText : Predicate := .equals (.own "AND") (.text "a\" OR b == \"c")

/-- Two comparisons with a connective between them. -/
def quotesOutside : Predicate := .or (.equals (.own "AND") (.text "a")) (.equals (.own "b") (.text "c"))

theorem display_eq_iff_quotes : quotesInText.Readable ∧ quotesOutside.Readable ∧
    (quotesInText.display = quotesOutside.display ↔ quotesInText = quotesOutside) ∧
    quotesInText.display ≠ quotesOutside.display := by
  have hin : quotesInText.Readable := ⟨⟨by decide, by decide⟩, _, rfl⟩
  have hout : quotesOutside.Readable := ⟨⟨⟨by decide, by decide⟩, _, rfl⟩, ⟨by decide, by decide⟩, _, rfl⟩
  have hiff := display_eq_iff quotesInText quotesOutside hin hout
  exact ⟨hin, hout, hiff, fun h => absurd (hiff.mp h) (by decide)⟩

end Predicate

end RowAccess
