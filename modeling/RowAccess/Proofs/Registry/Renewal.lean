import Mathlib.Data.List.Basic
import Mathlib.Tactic.Common
import RowAccess.Proofs.Registry.Chain
import RowAccess.Proofs.Registry.Course
import RowAccess.Proofs.Registry.Frame

/-!
# When own restrictions are built anew

Two facts about all builders last over every course: the objects in their slots have serial numbers that were
given out already, and a version in an own slot stands for tokens with the fingerprint in it, as far as the
source keeps its promise. With them, what becomes of an own slot over some looks at one source can be told from
the looks: while all have the fingerprint of the first, the slot is as it was but for the version, and from the
first look with another one on it holds a newer object of a later generation.
-/

namespace RowAccess

open RowAccess.Builder (Resolved OwnOutcome OwnStep)

namespace Builder

variable {promise : Promise} {b b₁ : Builder} {view : SourceView} {serial first g : Nat} {x : Restriction}
  {out : OwnOutcome} {tokens tokens' tokens'' : String → List String} {looks : List SourceView}

/-! ### Fresh slots -/

/-- The own slot answers what is seen of a source without being built anew. -/
structure Fresh (view : SourceView) (b : Builder) : Prop where
  source : b.own.source = some view.id
  built : ∃ x, b.own.restriction = some x
  version : b.own.version = view.version
  fingerprint : view.version = none → b.own.fingerprint = some (b.fingerprintOf view.tokens)

/-- A request for own fields that has an answer leaves it in the slot. -/
theorem OwnStep.fresh (h : OwnStep b view serial out) (hx : out.result = .ok (x, g)) :
    out.builder.Fresh view ∧ out.builder.own.restriction = some x ∧ out.builder.own.generation = g := by
  cases h with
  | byVersion y v held reported same =>
    obtain ⟨rfl, rfl⟩ := Prod.mk.inj (Except.ok.inj hx)
    refine ⟨⟨b.own.forSource_source view.id, ⟨y, held⟩, same.trans reported.symm, fun hnone => ?_⟩, held,
      b.own.forSource_generation view.id⟩
    rw [reported] at hnone
    cases hnone
  | byFingerprint y held same =>
    obtain ⟨rfl, rfl⟩ := Prod.mk.inj (Except.ok.inj hx)
    exact ⟨⟨b.own.forSource_source view.id, ⟨y, held⟩, rfl, fun _ => same⟩, held,
      b.own.forSource_generation view.id⟩
  | failed f demand => cases hx
  | built content demand =>
    obtain ⟨rfl, rfl⟩ := Prod.mk.inj (Except.ok.inj hx)
    exact ⟨⟨rfl, ⟨_, rfl⟩, rfl, fun _ => rfl⟩, rfl, rfl⟩

/-- Asked again, a fresh slot answers what it keeps. -/
theorem Fresh.resolveOwn (h : b.Fresh view) (hx : b.own.restriction = some x) (serial : Nat) :
    b.resolveOwn view serial = ⟨b, serial, .ok (x, b.own.generation)⟩ := by
  have hslot : b.own.forSource view.id = b.own := if_pos h.source
  unfold Builder.resolveOwn
  dsimp only
  rw [hslot]
  cases hv : view.version with
  | some v =>
    have hkept : keptByVersion? b.own (some v) = some x := by
      rw [← hx]
      exact if_pos ⟨rfl, h.version.trans hv⟩
    rw [hkept]
  | none =>
    have hnot : keptByVersion? b.own none = none := if_neg fun hc => by cases hc.1
    have hkept : keptByFingerprint? b.own (Fingerprint.ofHeld (b.held view)) = some x := by
      rw [← hx]
      exact if_pos (h.fingerprint hv)
    have hown : ({ b.own with version := none } : OwnSlot) = b.own := by
      rw [← h.version.trans hv]
    simp only [hnot, hkept, hown]

/-! ### Objects that were given out -/

/-- Objects in slots have serial numbers below the next free one, unless they stand for no restriction. -/
structure Numbered (serial : Nat) (b : Builder) : Prop where
  own : ∀ {x}, b.own.restriction = some x → x.serial = Restriction.openSerial ∨ x.serial < serial
  inclusive : ∀ {x}, b.inclusive.restriction = some x →
    x.serial = Restriction.openSerial ∨ x.serial < serial

theorem object_numbered (serial : Nat) (content : Option Predicate) :
    (object serial content).1.serial = Restriction.openSerial ∨
      (object serial content).1.serial < (object serial content).2 := by
  cases content with
  | none => exact .inl rfl
  | some p => exact .inr (Nat.lt_succ_self _)

theorem Numbered.mono {n : Nat} (h : Numbered serial b) (hle : serial ≤ n) : Numbered n b where
  own hx := (h.own hx).imp_right fun hlt => Nat.lt_of_lt_of_le hlt hle
  inclusive hx := (h.inclusive hx).imp_right fun hlt => Nat.lt_of_lt_of_le hlt hle

theorem Numbered.resolveOwn (h : Numbered serial b) (view : SourceView) :
    Numbered (b.resolveOwn view serial).serial (b.resolveOwn view serial).builder := by
  have hstep := b.resolveOwn_step view serial
  generalize b.resolveOwn view serial = out at hstep
  cases hstep with
  | byVersion => exact ⟨fun hx => h.own (OwnSlot.restriction_of_forSource hx), h.inclusive⟩
  | byFingerprint => exact ⟨fun hx => h.own (OwnSlot.restriction_of_forSource hx), h.inclusive⟩
  | failed => exact ⟨fun hx => (by cases hx), h.inclusive⟩
  | built content =>
    refine ⟨fun hx => ?_, (h.mono (object_serial_le serial content)).inclusive⟩
    obtain rfl := Option.some.inj hx
    exact object_numbered serial content

theorem Numbered.settle {own : Restriction} (h : Numbered serial b) (hown : b.own.restriction = some own)
    (parents : List (Edge × Resolved)) :
    Numbered (b.settle own b.own.generation parents true serial).2.1
      (b.settle own b.own.generation parents true serial).1 := by
  have hstep := b.settle_step own b.own.generation parents serial
  generalize b.settle own b.own.generation parents true serial = out at hstep
  cases hstep with
  | kept => exact h
  | built =>
    refine ⟨(h.mono (combined_serial_le own parents serial)).own, fun hx => ?_⟩
    obtain rfl := Option.some.inj hx
    unfold combined
    split
    · exact h.own hown
    · exact object_numbered serial _

theorem lasting_numbered (looks : SourceView → Prop) : Registry.Lasting Numbered looks where
  mono hle h := h.mono hle
  made hu := by
    constructor
    · intro x hx
      rw [hu.own] at hx
      cases hx
    · intro x hx
      rw [hu.inclusive] at hx
      cases hx
  classified _ h := ⟨fun hx => (by cases hx), h.inclusive⟩
  consulted _ h := h.resolveOwn _
  settled parents h hown := h.settle hown parents

/-! ### Versions and fingerprints -/

/-- The version in a slot for a source stands for tokens with the fingerprint in it. -/
def Stamped (promise : Promise) (id : SourceId) (b : Builder) : Prop :=
  ∀ v x, b.own.source = some id → b.own.version = some v → b.own.restriction = some x →
    b.own.fingerprint = some (b.fingerprintOf (promise id v))

theorem Stamped.resolveOwn {id : SourceId} (h : b.Stamped promise id)
    (hk : view.id = id → view.Honors promise) (serial : Nat) :
    (b.resolveOwn view serial).builder.Stamped promise id := by
  have hstep := b.resolveOwn_step view serial
  generalize b.resolveOwn view serial = out at hstep
  intro v x hid hv hx
  cases hstep with
  | byVersion y w held reported same =>
    unfold OwnSlot.forSource at hid hv hx ⊢
    split at hx
    next hsource =>
      rw [if_pos hsource] at hid hv ⊢
      exact h v x hid hv hx
    next => cases hx
  | byFingerprint y held same =>
    obtain rfl := Option.some.inj ((b.own.forSource_source view.id).symm.trans hid)
    rw [hk rfl v hv]
    exact same
  | failed => cases hx
  | built content demand =>
    obtain rfl := Option.some.inj hid
    rw [hk rfl v hv]
    rfl

theorem lasting_stamped (promise : Promise) (id : SourceId) :
    Registry.Lasting (fun _ b => b.Stamped promise id) fun view => view.id = id → view.Honors promise where
  mono _ h := h
  made hu := fun v x _ _ hx => by
    rw [hu.own] at hx
    cases hx
  classified _ _ := fun v x _ _ hx => by cases hx
  consulted hk h := h.resolveOwn hk _
  settled {n b own} parents h _ := by
    have hstep := b.settle_step own b.own.generation parents n
    generalize b.settle own b.own.generation parents true n = out at hstep
    cases hstep with
    | kept => exact h
    | built => exact h

/-- The own slot has the fingerprint of what is seen of a source, whatever version it has. -/
structure Steady (view : SourceView) (b : Builder) : Prop where
  source : b.own.source = some view.id
  built : ∃ x, b.own.restriction = some x
  fingerprint : b.own.fingerprint = some (b.fingerprintOf view.tokens)

/-- A fresh slot has the fingerprint of the tokens, whether the source has versions or not. -/
theorem Fresh.steady (h : b.Fresh view) (hs : b.Stamped promise view.id) (hk : view.Honors promise) :
    b.Steady view where
  source := h.source
  built := h.built
  fingerprint := by
    cases hv : view.version with
    | none => exact h.fingerprint hv
    | some v =>
      obtain ⟨x, hx⟩ := h.built
      rw [hs v x h.source (h.version.trans hv) hx, hk v hv]

/-- A builder whose own slot has another version. -/
def restamped (version : Option Version) (b : Builder) : Builder := { b with own := { b.own with version } }

/-- A slot that has the fingerprint of what is seen is not built anew: only its version may change. -/
theorem Steady.resolveOwn (h : b.Steady view) (hx : b.own.restriction = some x) (serial : Nat) :
    b.resolveOwn view serial = ⟨b.restamped view.version, serial, .ok (x, b.own.generation)⟩ := by
  have hslot : b.own.forSource view.id = b.own := if_pos h.source
  have hkept : keptByFingerprint? b.own (Fingerprint.ofHeld (b.held view)) = some x := by
    rw [← hx]
    exact if_pos h.fingerprint
  unfold Builder.resolveOwn
  dsimp only
  rw [hslot, hkept]
  split
  next y hy =>
    unfold keptByVersion? at hy
    split at hy
    next hsame =>
      obtain rfl := Option.some.inj (hx.symm.trans hy)
      rw [restamped, ← hsame.2]
    next => cases hy
  next => rfl

theorem fingerprintOf_congr (h : ∀ c ∈ b.classified, tokens c.dimension = tokens' c.dimension) :
    b.fingerprintOf tokens = b.fingerprintOf tokens' := by
  unfold fingerprintOf
  congr 1
  refine List.map_congr_left fun d hd => ?_
  obtain ⟨c, hc, rfl⟩ := mem_dimensions.mp hd
  rw [h c hc]

/-- Builders with the same classified fields fingerprint tokens alike. -/
theorem fingerprintOf_of_classified (h : b.classified = b₁.classified) (tokens : String → List String) :
    b.fingerprintOf tokens = b₁.fingerprintOf tokens := by
  unfold fingerprintOf dimensions
  rw [h]

/-- Where two fingerprints differ there is something to demand. -/
theorem demand_ne_none (h : b.fingerprintOf tokens ≠ b.fingerprintOf tokens') {content : Option Predicate}
    (hd : Facts.demand tokens'' b.classified = .ok content) : content ≠ none := by
  rintro rfl
  have hnothing := (Facts.means_demand hd).isOpen.mp rfl
  exact h (fingerprintOf_congr fun c hc => (hnothing [] c ⟨rfl, hc⟩).elim)

/-! ### Over some looks -/

/-- What becomes of the own slot of a builder `b₁` over some looks at a source that showed `tokens` before, where
new objects have serial numbers from `first` on. -/
inductive OwnSince (first : Nat) (tokens : String → List String) (b₁ : Builder) (looks : List SourceView) :
    OwnSlot → Prop
  | kept (version : Option Version)
      (same : ∀ look ∈ looks, b₁.fingerprintOf look.tokens = b₁.fingerprintOf tokens) :
      OwnSince first tokens b₁ looks { b₁.own with version }
  | moved {s : OwnSlot} {x : Restriction}
      (differs : ∃ look ∈ looks, b₁.fingerprintOf look.tokens ≠ b₁.fingerprintOf tokens)
      (later : b₁.own.generation < s.generation) (held : s.restriction = some x) (newer : first ≤ x.serial) :
      OwnSince first tokens b₁ looks s

theorem OwnSince.start (first : Nat) (tokens : String → List String) (b : Builder) :
    OwnSince first tokens b [] b.own :=
  .kept b.own.version fun _ h => by cases h

/-- What is demanded where two looks have different fingerprints is a newer object. -/
theorem object_newer (hb : b.classified = b₁.classified)
    (hne : b₁.fingerprintOf tokens' ≠ b₁.fingerprintOf tokens) {content : Option Predicate}
    (hd : Facts.demand tokens'' b.classified = .ok content) (hle : first ≤ serial) :
    first ≤ (object serial content).1.serial := by
  cases content with
  | none => exact absurd rfl (demand_ne_none hne (hb ▸ hd))
  | some p => exact hle

/-- A slot that was as before stays so, or the look has another fingerprint and it is built anew. -/
theorem OwnSince.consult_kept {version : Option Version} (hown : b.own = { b₁.own with version })
    (same : ∀ look ∈ looks, b₁.fingerprintOf look.tokens = b₁.fingerprintOf tokens)
    (hb : b.classified = b₁.classified) (hfresh : b₁.own.source = some view.id)
    (hx₁ : b₁.own.restriction = some x) (hf₁ : b₁.own.fingerprint = some (b₁.fingerprintOf tokens))
    (hs : b.Stamped promise view.id) (hk : view.Keeps promise) (hle : first ≤ serial)
    (hok : (b.resolveOwn view serial).result.isOk = true) :
    OwnSince first tokens b₁ (looks ++ [view]) (b.resolveOwn view serial).builder.own := by
  have hprint := fingerprintOf_of_classified hb
  have hsource : b.own.source = some view.id := by rw [hown, hfresh]
  have hx : b.own.restriction = some x := by rw [hown, hx₁]
  have hf : b.own.fingerprint = some (b₁.fingerprintOf tokens) := by rw [hown, hf₁]
  have hslot : b.own.forSource view.id = b.own := if_pos hsource
  have hsame : b.own.fingerprint = some (b.fingerprintOf view.tokens) →
      ∀ look ∈ looks ++ [view], b₁.fingerprintOf look.tokens = b₁.fingerprintOf tokens := by
    intro hfv look hlook
    rcases List.mem_append.mp hlook with hlook | hlook
    · exact same look hlook
    · rw [List.mem_singleton.mp hlook, ← hprint]
      exact Option.some.inj (hfv.symm.trans hf)
  have hgen : b.own.fingerprint = some (b.fingerprintOf view.tokens) →
      (b.resolveOwn view serial).builder.own.generation = b.own.generation := by
    intro hf
    have hsteady : b.Steady view := ⟨hsource, ⟨x, hx⟩, hf⟩
    rw [hsteady.resolveOwn hx]
    rfl
  have hstep := b.resolveOwn_step view serial
  generalize b.resolveOwn view serial = out at hstep hgen hok
  cases hstep with
  | byVersion y v held reported sameVersion =>
    rw [hslot] at held sameVersion ⊢
    rw [hown]
    refine .kept version (hsame ?_)
    rw [hs v y hsource sameVersion held, hk.version v reported]
  | byFingerprint y held samePrint =>
    rw [hslot] at samePrint ⊢
    rw [hown]
    exact .kept view.version (hsame samePrint)
  | failed f demand => cases hok
  | built content demand =>
    have hne : b₁.fingerprintOf view.tokens ≠ b₁.fingerprintOf tokens := by
      intro heq
      have hkept := hgen (by rw [hprint, heq, hf])
      exact absurd hkept (Nat.succ_ne_self _)
    refine .moved ⟨view, List.mem_append_right _ (List.mem_singleton_self _), hne⟩ ?_ rfl
      (object_newer hb hne demand hle)
    rw [hown]
    exact Nat.lt_succ_self _

/-- A slot that holds a newer object goes on to hold one. -/
theorem OwnSince.consult_moved
    (differs : ∃ look ∈ looks, b₁.fingerprintOf look.tokens ≠ b₁.fingerprintOf tokens)
    (later : b₁.own.generation < b.own.generation) (held : b.own.restriction = some x)
    (newer : first ≤ x.serial) (hb : b.classified = b₁.classified) (hle : first ≤ serial)
    (hok : (b.resolveOwn view serial).result.isOk = true) :
    OwnSince first tokens b₁ (looks ++ [view]) (b.resolveOwn view serial).builder.own := by
  obtain ⟨look, hlook, hne⟩ := differs
  have hdiffers : ∃ look ∈ looks ++ [view], b₁.fingerprintOf look.tokens ≠ b₁.fingerprintOf tokens :=
    ⟨look, List.mem_append_left _ hlook, hne⟩
  have hsame : ∀ {y}, (b.own.forSource view.id).restriction = some y → y = x := fun hy =>
    Option.some.inj ((OwnSlot.restriction_of_forSource hy).symm.trans held)
  have hlater : b₁.own.generation < (b.own.forSource view.id).generation := by
    rwa [OwnSlot.forSource_generation]
  have hstep := b.resolveOwn_step view serial
  generalize b.resolveOwn view serial = out at hstep hok
  cases hstep with
  | byVersion y v heldy => exact .moved hdiffers hlater heldy (hsame heldy ▸ newer)
  | byFingerprint y heldy => exact .moved hdiffers hlater heldy (hsame heldy ▸ newer)
  | failed f demand => cases hok
  | built content demand =>
    exact .moved hdiffers (Nat.lt_succ_of_lt later) rfl (object_newer hb hne demand hle)

/-- One more look that the builder has an answer for. -/
theorem OwnSince.consult (h : OwnSince first tokens b₁ looks b.own) (hb : b.classified = b₁.classified)
    (hfresh : b₁.own.source = some view.id) (hx₁ : b₁.own.restriction = some x)
    (hf₁ : b₁.own.fingerprint = some (b₁.fingerprintOf tokens)) (hs : b.Stamped promise view.id)
    (hk : view.Keeps promise) (hle : first ≤ serial)
    (hok : (b.resolveOwn view serial).result.isOk = true) :
    OwnSince first tokens b₁ (looks ++ [view]) (b.resolveOwn view serial).builder.own := by
  generalize hown : b.own = own at h
  cases h with
  | kept version same => exact .consult_kept hown same hb hfresh hx₁ hf₁ hs hk hle hok
  | moved differs later held newer =>
    rw [← hown] at later held
    exact .consult_moved differs later held newer hb hle hok

end Builder

end RowAccess
