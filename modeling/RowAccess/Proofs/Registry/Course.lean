import Mathlib.Data.List.Basic
import Mathlib.Logic.Function.Basic
import Mathlib.Tactic.Common
import RowAccess.Proofs.Registry.Consultation
import RowAccess.Proofs.Registry.Frame
import RowAccess.Proofs.Registry.InclusiveSlot
import RowAccess.Proofs.Registry.OwnSlot

/-!
# Changes of what is kept

A registry changes by one builder at a time: a builder is made, a field is classified, a builder is consulted,
or an inclusive restriction is put together from what the builders of the type and its parents keep.
`Registry.Shift` lists these changes, each with the consultation that comes with it, and `Registry.Course` is
any number of them, one after another.
-/

namespace RowAccess

open RowAccess.Builder (Resolved)

namespace Registry

/-- The builder of a type was replaced or added, and the next free serial number is another. -/
structure Puts (r : Registry) (entity : String) (b : Builder) (serial : Nat) (r' : Registry) : Prop where
  builders : r'.builder? = Function.update r.builder? entity (some b)
  serial : r'.serial = serial

/-- The builder of a type keeps an inclusive restriction of some generation. -/
def Holds (r : Registry) (entity : String) (p : Resolved) : Prop :=
  ∃ b, r.builder? entity = some b ∧ b.inclusive.restriction = some p.restriction ∧
    b.inclusive.generation = p.generation

/-- One change of what is kept, with the consultation that it comes with. -/
inductive Shift (r r' : Registry) : List Consultation → Prop
  | kept (builders : r'.builder? = r.builder?) (serial : r.serial ≤ r'.serial) : Shift r r' []
  | made {entity : String} {b : Builder} {s : Schema} (missing : r.builder? entity = none)
      (unused : b.Unused s) (puts : r.Puts entity b r.serial r') : Shift r r' []
  | classified {entity : String} {b : Builder} (c : Classified) (found : r.builder? entity = some b)
      (puts : r.Puts entity { b with classified := b.classified ++ [c], own := b.own.invalidate }
        r.serial r') : Shift r r' []
  | consulted {entity : String} {b : Builder} {view : SourceView} (found : r.builder? entity = some b)
      (puts : r.Puts entity (b.resolveOwn view r.serial).builder (b.resolveOwn view r.serial).serial r') :
      Shift r r' [⟨entity, view, (b.resolveOwn view r.serial).result.isOk⟩]
  | settled {entity : String} {b : Builder} {own : Restriction} {parents : List (Edge × Resolved)}
      (found : r.builder? entity = some b) (built : b.own.restriction = some own)
      (edges : parents.map Prod.fst = b.schema.edges) (held : ∀ p ∈ parents, r.Holds p.1.target p.2)
      (puts : r.Puts entity (b.settle own b.own.generation parents true r.serial).1
        (b.settle own b.own.generation parents true r.serial).2.1 r') : Shift r r' []

/-- Changes one after another, with all their consultations. -/
inductive Course (r : Registry) : List Consultation → Registry → Prop
  | refl : Course r [] r
  | step {log more : List Consultation} {r' r'' : Registry} (h : Course r log r')
      (hs : Shift r' r'' more) : Course r (log ++ more) r''

variable {r r' r'' : Registry} {log more : List Consultation} {entity e : String} {b c : Builder}
  {serial : Nat}

theorem Shift.course (h : Shift r r' log) : Course r log r' := .step .refl h

theorem Course.trans (h : Course r log r') (h' : Course r' more r'') : Course r (log ++ more) r'' := by
  induction h' with
  | refl => rwa [List.append_nil]
  | step _ hs ih =>
    rw [← List.append_assoc]
    exact .step ih hs

theorem puts_put (h : r.builder? b.entity = some c) (serial : Nat) :
    r.Puts b.entity b serial ({ r with serial }.put b) := by
  refine ⟨?_, rfl⟩
  funext e
  rw [builder?_put]
  by_cases he : e = b.entity
  · subst he
    rw [if_pos rfl, Function.update_self]
    exact congrArg (Option.map _) h
  · rw [if_neg he, Function.update_of_ne he]
    rfl

theorem Puts.self (h : r.Puts entity b serial r') : r'.builder? entity = some b := by
  rw [h.builders, Function.update_self]

theorem Puts.of_ne (h : r.Puts entity b serial r') (he : e ≠ entity) : r'.builder? e = r.builder? e := by
  rw [h.builders, Function.update_of_ne he]

/-- A builder that is put in its own place is no change. -/
theorem Puts.eq (h : r.Puts entity b serial r') (hb : r.builder? entity = some b) :
    r'.builder? = r.builder? := by
  rw [h.builders, ← hb, Function.update_eq_self]

/-! ### What changes are -/

/-- A builder that was got was there, or it is a new one that was never asked. -/
theorem get_puts (r : Registry) (entity : String) :
    (r.get entity).1 = r ∨
      r.builder? entity = none ∧ ∃ b s, b.Unused s ∧ r.Puts entity b r.serial (r.get entity).1 := by
  rcases get_cases r entity with ⟨b, hb, hg⟩ | ⟨f, hb, hc, hg⟩ | ⟨s, b, hb, hs, ho, hg⟩
  · exact .inl (congrArg Prod.fst hg)
  · exact .inl (congrArg Prod.fst hg)
  · have hu := Builder.unused_ofSchema ho
    obtain rfl := Builder.entity_of_described hs ho
    refine .inr ⟨hb, b, s, hu, ?_, by rw [hg]⟩
    rw [hg]
    funext e
    rw [builder?_append hb]
    by_cases he : e = b.entity
    · rw [if_pos he, he, Function.update_self]
    · rw [if_neg he, Function.update_of_ne he]

theorem course_get (r : Registry) (entity : String) : Course r [] (r.get entity).1 := by
  rcases r.get_puts entity with heq | ⟨hnone, b, s, hu, hputs⟩
  · rw [heq]
    exact .refl
  · exact (Shift.made hnone hu hputs).course

theorem course_classify (r : Registry) (entity field dimension : String) :
    Course r [] (r.classify entity field dimension).1 := by
  have hget := course_get r entity
  rcases r.classify_cases entity field dimension with ⟨f, heq⟩ | ⟨b, b', hb, rfl, hentity, hc, heq⟩
  · rw [heq]
    exact hget
  · rw [heq]
    have hputs := puts_put (hentity.symm ▸ hb) (r.get b.entity).1.serial
    rcases Builder.classify_cases hc with rfl | ⟨f, -, rfl⟩
    · exact hget.trans (Shift.kept (hputs.eq hb) (Nat.le_refl _)).course
    · exact hget.trans (Shift.classified _ hb hputs).course

theorem puts_resolveOwn (hb : r.builder? b.entity = some b) (view : SourceView) :
    r.Puts b.entity (b.resolveOwn view r.serial).builder (b.resolveOwn view r.serial).serial
      (r.resolveOwn view b).1 := by
  have hentity : (b.resolveOwn view r.serial).builder.entity = b.entity :=
    entity_eq_of_facts (facts_resolveOwn b view r.serial)
  have hput := puts_put (b := (b.resolveOwn view r.serial).builder) (r := r) (hentity.symm ▸ hb)
    (b.resolveOwn view r.serial).serial
  rwa [hentity] at hput

theorem shift_resolveOwn (hb : r.builder? b.entity = some b) (view : SourceView) :
    Shift r (r.resolveOwn view b).1 [r.consultation view b] :=
  .consulted hb (puts_resolveOwn hb view)

theorem course_ownRestriction (r : Registry) (view : SourceView) (entity : String) :
    Course r (r.ownConsultations view entity) (r.ownRestriction view entity).1 := by
  unfold ownConsultations
  obtain ⟨f, hg, heq⟩ | ⟨r₁, b, hg, hb, rfl, heq⟩ := r.ownRestriction_cases view entity
  · rw [heq, hg]
    exact .refl
  · have hget := course_get r b.entity
    rw [hg] at hget
    rw [heq, hg]
    exact hget.trans (shift_resolveOwn hb view).course

/-! ### Serial numbers -/

theorem resolveOwn_serial_le (b : Builder) (view : SourceView) (serial : Nat) :
    serial ≤ (b.resolveOwn view serial).serial := by
  have hstep := b.resolveOwn_step view serial
  generalize b.resolveOwn view serial = out at hstep
  cases hstep with
  | byVersion => exact Nat.le_refl _
  | byFingerprint => exact Nat.le_refl _
  | failed => exact Nat.le_refl _
  | built content => exact Builder.object_serial_le _ _

theorem Shift.serial_le (h : Shift r r' log) : r.serial ≤ r'.serial := by
  cases h with
  | kept _ hs => exact hs
  | made _ _ puts => exact Nat.le_of_eq puts.serial.symm
  | classified _ _ puts => exact Nat.le_of_eq puts.serial.symm
  | consulted _ puts => exact puts.serial ▸ resolveOwn_serial_le _ _ _
  | settled _ _ _ _ puts => exact puts.serial ▸ Builder.settle_serial_le _ _ _ _ _ _

/-! ### What holds of all builders -/

/-- What holds of all builders of a registry, given its next free serial number. -/
def Everywhere (p : Nat → Builder → Prop) (r : Registry) : Prop :=
  ∀ entity b, r.builder? entity = some b → p r.serial b

/-- What one builder after another keeps. -/
structure Lasting (p : Nat → Builder → Prop) (looks : SourceView → Prop) : Prop where
  mono : ∀ {n m b}, n ≤ m → p n b → p m b
  made : ∀ {n b s}, b.Unused s → p n b
  classified : ∀ {n b} (c : Classified), p n b →
    p n { b with classified := b.classified ++ [c], own := b.own.invalidate }
  consulted : ∀ {n b view}, looks view → p n b →
    p (b.resolveOwn view n).serial (b.resolveOwn view n).builder
  settled : ∀ {n b own} (parents : List (Edge × Resolved)), p n b → b.own.restriction = some own →
    p (b.settle own b.own.generation parents true n).2.1
      (b.settle own b.own.generation parents true n).1

variable {p : Nat → Builder → Prop} {looks : SourceView → Prop}

theorem Puts.everywhere (h : r.Puts entity b serial r') (hr : Everywhere p r)
    (hp : Lasting p looks) (hle : r.serial ≤ serial) (hb : p serial b) : Everywhere p r' := by
  intro e c hc
  rw [h.serial]
  by_cases he : e = entity
  · rw [he, h.self] at hc
    rwa [← Option.some.inj hc]
  · rw [h.of_ne he] at hc
    exact hp.mono hle (hr e c hc)

theorem Shift.everywhere (h : Shift r r' log) (hp : Lasting p looks) (hlooks : ∀ k ∈ log, looks k.view)
    (hr : Everywhere p r) : Everywhere p r' := by
  have hle := h.serial_le
  cases h with
  | kept builders _ =>
    intro e c hc
    rw [builders] at hc
    exact hp.mono hle (hr e c hc)
  | made _ unused puts => exact puts.everywhere hr hp (Nat.le_refl _) (hp.made unused)
  | classified c found puts => exact puts.everywhere hr hp (Nat.le_refl _) (hp.classified c (hr _ _ found))
  | consulted found puts =>
    exact puts.everywhere hr hp (puts.serial ▸ hle)
      (hp.consulted (hlooks _ (List.mem_singleton_self _)) (hr _ _ found))
  | settled found built _ _ puts =>
    exact puts.everywhere hr hp (puts.serial ▸ hle) (hp.settled _ (hr _ _ found) built)

theorem Course.serial_le (h : Course r log r') : r.serial ≤ r'.serial := by
  induction h with
  | refl => exact Nat.le_refl _
  | step _ hs ih => exact Nat.le_trans ih hs.serial_le

theorem Course.everywhere (h : Course r log r') (hp : Lasting p looks) (hlooks : ∀ k ∈ log, looks k.view)
    (hr : Everywhere p r) : Everywhere p r' := by
  induction h with
  | refl => exact hr
  | step _ hs ih =>
    exact hs.everywhere hp (fun k hk => hlooks k (List.mem_append_right _ hk))
      (ih fun k hk => hlooks k (List.mem_append_left _ hk))

end Registry

end RowAccess
