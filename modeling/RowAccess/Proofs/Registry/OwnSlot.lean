import Mathlib.Data.List.Basic
import Mathlib.Tactic.Common
import RowAccess.Proofs.Registry.Fingerprint
import RowAccess.Proofs.Registry.Lookup

/-!
# The slot of the own fields

The slot answers without compiling in two cases: the same source reports the same version, or the
tokens have the same fingerprint. `Promise` is what the versions of sources stand for. `OwnSlot.Valid` says
of a slot that whatever a version or a fingerprint in it stands for demands just what it holds; it does
not say that the source still holds the same tokens. No request breaks it, and an answer from a valid slot
is what the tokens of the source demand.
-/

namespace RowAccess

/-- The tokens that versions of sources stand for. -/
abbrev Promise := SourceId → Version → String → List String

/-- A source whose version stands for its tokens, and whose lists are not longer than can be counted. -/
structure SourceView.Keeps (promise : Promise) (view : SourceView) : Prop where
  version : ∀ v, view.version = some v → promise view.id v = view.tokens
  fits : ∀ d, Fingerprint.FitsTokens (view.tokens d)

/-- A source whose version stands for its tokens, however long its lists are. -/
def SourceView.Honors (promise : Promise) (view : SourceView) : Prop :=
  ∀ v, view.version = some v → promise view.id v = view.tokens

namespace Builder

/-- The fingerprint of tokens for a builder. -/
def fingerprintOf (b : Builder) (tokens : String → List String) : Fingerprint :=
  Fingerprint.ofHeld (b.dimensions.map fun d => (d, tokens d))

/-- Tokens with the same fingerprint for a builder are the same in the dimensions of its classified fields. -/
theorem eq_of_fingerprint {b : Builder} {tokens tokens' : String → List String}
    (hf : ∀ d, Fingerprint.FitsTokens (tokens d)) (hf' : ∀ d, Fingerprint.FitsTokens (tokens' d))
    (h : b.fingerprintOf tokens = b.fingerprintOf tokens') :
    ∀ c ∈ b.classified, tokens c.dimension = tokens' c.dimension := by
  have hheld := Fingerprint.ofHeld_inj (by simp) (by simp [hf]) (by simp [hf']) h
  have hall : ∀ d ∈ b.dimensions, tokens d = tokens' d := by simpa using hheld
  exact fun c hc => hall c.dimension (mem_dimensions.mpr ⟨c, hc, rfl⟩)

/-- Tokens with the same fingerprint for a builder demand the same. -/
theorem demand_of_fingerprint {b : Builder} {tokens tokens' : String → List String}
    (hf : ∀ d, Fingerprint.FitsTokens (tokens d)) (hf' : ∀ d, Fingerprint.FitsTokens (tokens' d))
    (h : b.fingerprintOf tokens = b.fingerprintOf tokens') :
    Facts.demand tokens b.classified = Facts.demand tokens' b.classified :=
  Facts.demand_congr (eq_of_fingerprint hf hf' h)

end Builder

/-- What a slot of a builder holds is what its version and its fingerprint stand for. -/
structure OwnSlot.Valid (promise : Promise) (b : Builder) (s : OwnSlot) : Prop where
  version : ∀ {x id v}, s.restriction = some x → s.source = some id → s.version = some v →
    Facts.demand (promise id v) b.classified = .ok x.content
  fingerprint : ∀ {x tokens}, s.restriction = some x → (∀ d, Fingerprint.FitsTokens (tokens d)) →
    s.fingerprint = some (b.fingerprintOf tokens) →
    Facts.demand tokens b.classified = .ok x.content

namespace OwnSlot

variable {promise : Promise} {b : Builder} {s : OwnSlot}

theorem valid_of_none (h : s.restriction = none) : Valid promise b s := by
  constructor
  · intro x id v hx
    rw [h] at hx
    cases hx
  · intro x tokens hx
    rw [h] at hx
    cases hx

theorem Valid.forSource (h : Valid promise b s) (id : SourceId) :
    Valid promise b (s.forSource id) := by
  unfold OwnSlot.forSource
  split
  · exact h
  · exact valid_of_none rfl

theorem forSource_source (s : OwnSlot) (id : SourceId) : (s.forSource id).source = some id := by
  unfold forSource
  split
  · assumption
  · rfl

@[simp]
theorem forSource_generation (s : OwnSlot) (id : SourceId) :
    (s.forSource id).generation = s.generation := by
  unfold forSource
  split <;> rfl

theorem restriction_of_forSource {id : SourceId} {x : Restriction}
    (h : (s.forSource id).restriction = some x) : s.restriction = some x := by
  unfold forSource at h
  split at h
  · exact h
  · cases h

end OwnSlot

namespace Builder

/-- What a request for the own fields can do: keep what is there because of the version or because of
the fingerprint, fail, or build anew. -/
inductive OwnStep (b : Builder) (view : SourceView) (serial : Nat) : OwnOutcome → Prop
  | byVersion (x : Restriction) (v : Version)
      (held : (b.own.forSource view.id).restriction = some x)
      (reported : view.version = some v) (same : (b.own.forSource view.id).version = some v) :
      OwnStep b view serial
        ⟨{ b with own := b.own.forSource view.id }, serial, .ok (x, b.own.generation)⟩
  | byFingerprint (x : Restriction) (held : (b.own.forSource view.id).restriction = some x)
      (same : (b.own.forSource view.id).fingerprint = some (b.fingerprintOf view.tokens)) :
      OwnStep b view serial
        ⟨{ b with own := { b.own.forSource view.id with version := view.version } }, serial,
          .ok (x, b.own.generation)⟩
  | failed (f : Fault) (demand : Facts.demand view.tokens b.classified = .error f) :
      OwnStep b view serial
        ⟨{ b with own := (b.own.forSource view.id).invalidate }, serial, .error f⟩
  | built (content : Option Predicate)
      (demand : Facts.demand view.tokens b.classified = .ok content) :
      OwnStep b view serial
        ⟨{ b with
            own := ⟨some view.id, view.version, some (b.fingerprintOf view.tokens),
              some (object serial content).1, b.own.generation + 1⟩ },
          (object serial content).2, .ok ((object serial content).1, b.own.generation + 1)⟩

theorem resolveOwn_step (b : Builder) (view : SourceView) (serial : Nat) :
    OwnStep b view serial (b.resolveOwn view serial) := by
  have hheld : Fingerprint.ofHeld (b.held view) = b.fingerprintOf view.tokens := rfl
  unfold resolveOwn
  simp only [demand_held, hheld, OwnSlot.forSource_generation]
  split
  next x hx =>
    unfold keptByVersion? at hx
    split at hx
    next hv =>
      obtain ⟨v, hview⟩ := Option.isSome_iff_exists.mp hv.1
      exact .byVersion x v hx hview (hv.2.trans hview)
    next => cases hx
  next =>
    split
    next x hx =>
      unfold keptByFingerprint? at hx
      split at hx
      next hf => simpa only [OwnSlot.forSource_generation] using OwnStep.byFingerprint x hx hf
      next => cases hx
    next =>
      split
      next f hd => exact .failed f hd
      next content hd =>
        rw [OwnSlot.forSource_source]
        exact .built content hd

@[simp]
theorem object_content (serial : Nat) (content : Option Predicate) :
    (object serial content).1.content = content := by
  cases content <;> rfl

variable {promise : Promise} {b : Builder} {view : SourceView} {serial : Nat} {out : OwnOutcome}

/-- A request for the own fields answers what the source's tokens demand. -/
theorem OwnStep.answer (hb : b.own.Valid promise b) (hk : view.Keeps promise)
    (h : OwnStep b view serial out) :
    out.result.map (fun x => x.1.content) = Facts.demand view.tokens b.classified := by
  have hs := hb.forSource view.id
  cases h with
  | byVersion x v held reported same =>
    rw [← hk.version v reported]
    exact (hs.version held (b.own.forSource_source view.id) same).symm
  | byFingerprint x held same => exact (hs.fingerprint held hk.fits same).symm
  | failed f demand => exact demand.symm
  | built content demand => simp [Except.map, demand]

/-- A request for the own fields leaves a valid slot behind. -/
theorem OwnStep.valid (hb : b.own.Valid promise b) (hk : view.Keeps promise)
    (h : OwnStep b view serial out) : out.builder.own.Valid promise out.builder := by
  have hs := hb.forSource view.id
  cases h with
  | byVersion x v held reported same => exact ⟨hs.version, hs.fingerprint⟩
  | byFingerprint x held same =>
    refine ⟨?_, hs.fingerprint⟩
    intro y id v hy hid hv
    obtain rfl : view.id = id :=
      Option.some.inj ((b.own.forSource_source view.id).symm.trans hid)
    obtain rfl : x = y := Option.some.inj (held.symm.trans hy)
    rw [hk.version v hv]
    exact hs.fingerprint held hk.fits same
  | failed f demand => exact OwnSlot.valid_of_none rfl
  | built content demand =>
    constructor
    · intro y id v hy hid hv
      obtain rfl := Option.some.inj hid
      obtain rfl := Option.some.inj hy
      rw [hk.version v hv, object_content]
      exact demand
    · intro y tokens hy hfits hf
      obtain rfl := Option.some.inj hy
      rw [object_content, ← demand]
      exact demand_of_fingerprint hfits hk.fits (Option.some.inj hf).symm

end Builder

end RowAccess
