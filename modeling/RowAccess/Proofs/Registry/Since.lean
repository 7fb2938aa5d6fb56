import Mathlib.Data.List.Basic
import Mathlib.Logic.Function.Basic
import Mathlib.Tactic.Common
import RowAccess.Proofs.Registry.Ready

/-!
# What became of ready types

Some types are ready for a source, with all their ancestors, and then their builders are consulted by this
source only. `Registry.Since` says what becomes of them: an own slot is told by the looks at the source alone,
and an inclusive slot is as it was, or else it holds a newer object of a later generation, and some part that it
is put together from has come to a later generation as well. Every change of a registry keeps this.
-/

namespace RowAccess

open RowAccess.Builder (Resolved OwnSince Stamped)

namespace Registry

variable {r₁ r r' : Registry} {log more : List Consultation} {entity u : String} {b b' b₁ : Builder}
  {serial : Nat} {view : SourceView} {promise : Promise} {reach : String → Prop}
  {tokens : String → List String}

/-! ### Generations -/

/-- A type has come to a later generation than it had. -/
def Ahead (r₁ r : Registry) (generation : Builder → Nat) (entity : String) : Prop :=
  ∃ b₁ b, r₁.builder? entity = some b₁ ∧ r.builder? entity = some b ∧ generation b₁ < generation b

/-- A part of a type's inclusive restriction has come to a later generation. -/
def Moved (r₁ r : Registry) (entity : String) : Prop :=
  Ahead r₁ r (fun b => b.own.generation) entity ∨
    ∃ b₁, r₁.builder? entity = some b₁ ∧
      ∃ e ∈ b₁.schema.edges, Ahead r₁ r (fun b => b.inclusive.generation) e.target

/-- Builders that are there stay, and their generations never fall. -/
structure Rises (r r' : Registry) : Prop where
  own : ∀ {e b}, r.builder? e = some b → ∃ b', r'.builder? e = some b' ∧ b.own.generation ≤ b'.own.generation
  inclusive : ∀ {e b}, r.builder? e = some b →
    ∃ b', r'.builder? e = some b' ∧ b.inclusive.generation ≤ b'.inclusive.generation

theorem rises_of_found (h : ∀ e b, r.builder? e = some b → r'.builder? e = some b) : Rises r r' :=
  ⟨fun hb => ⟨_, h _ _ hb, Nat.le_refl _⟩, fun hb => ⟨_, h _ _ hb, Nat.le_refl _⟩⟩

theorem Puts.rises (h : r.Puts entity b' serial r') (found : r.builder? entity = some b)
    (hown : b.own.generation ≤ b'.own.generation)
    (hinclusive : b.inclusive.generation ≤ b'.inclusive.generation) : Rises r r' := by
  constructor
  · intro e c hc
    by_cases he : e = entity
    · subst he
      obtain rfl := Option.some.inj (found.symm.trans hc)
      exact ⟨b', h.self, hown⟩
    · exact ⟨c, (h.of_ne he).trans hc, Nat.le_refl _⟩
  · intro e c hc
    by_cases he : e = entity
    · subst he
      obtain rfl := Option.some.inj (found.symm.trans hc)
      exact ⟨b', h.self, hinclusive⟩
    · exact ⟨c, (h.of_ne he).trans hc, Nat.le_refl _⟩

theorem Moved.rises (h : Moved r₁ r entity) (hr : Rises r r') : Moved r₁ r' entity := by
  rcases h with ⟨b₁, b, hb₁, hb, hlt⟩ | ⟨b₁, hb₁, e, he, c₁, c, hc₁, hc, hlt⟩
  · obtain ⟨b', hb', hle⟩ := hr.own hb
    exact .inl ⟨b₁, b', hb₁, hb', Nat.lt_of_lt_of_le hlt hle⟩
  · obtain ⟨c', hc', hle⟩ := hr.inclusive hc
    exact .inr ⟨b₁, hb₁, e, he, c₁, c', hc₁, hc', Nat.lt_of_lt_of_le hlt hle⟩

/-! ### The types and what became of them -/

/-- Types that are ready for a source, closed under edges, with the fingerprints of its tokens in their own
slots. -/
structure Based (reach : String → Prop) (view : SourceView) (r₁ : Registry) : Prop where
  serial : 0 < r₁.serial
  ready : ∀ {u}, reach u → Ready view r₁ u
  edges : ∀ {u b₁}, reach u → r₁.builder? u = some b₁ → ∀ e ∈ b₁.schema.edges, reach e.target
  fingerprint : ∀ {u b₁}, reach u → r₁.builder? u = some b₁ →
    b₁.own.fingerprint = some (b₁.fingerprintOf view.tokens)

/-- What became of an inclusive slot. -/
def InclusiveSince (r₁ r : Registry) (entity : String) (b₁ b : Builder) : Prop :=
  b.inclusive = b₁.inclusive ∨
    b₁.inclusive.generation < b.inclusive.generation ∧
      (∃ x, b.inclusive.restriction = some x ∧ r₁.serial ≤ x.serial) ∧ Moved r₁ r entity

/-- What became of some types after some consultations. -/
structure Since (reach : String → Prop) (tokens : String → List String) (r₁ : Registry)
    (log : List Consultation) (r : Registry) : Prop where
  serial : r₁.serial ≤ r.serial
  own : ∀ {u b₁}, reach u → r₁.builder? u = some b₁ →
    ∃ b, r.builder? u = some b ∧ b.facts = b₁.facts ∧
      OwnSince r₁.serial tokens b₁ (looksAt log u) b.own
  inclusive : ∀ {u b₁ b}, reach u → r₁.builder? u = some b₁ → r.builder? u = some b →
    InclusiveSince r₁ r u b₁ b

theorem Since.start (reach : String → Prop) (tokens : String → List String) (r₁ : Registry) :
    Since reach tokens r₁ [] r₁ where
  serial := Nat.le_refl _
  own _ hb₁ := ⟨_, hb₁, rfl, .start _ _ _⟩
  inclusive _ hb₁ hb := .inl (congrArg Builder.inclusive (Option.some.inj (hb.symm.trans hb₁)))

theorem InclusiveSince.rises (h : InclusiveSince r₁ r entity b₁ b) (hr : Rises r r')
    (heq : b'.inclusive = b.inclusive) : InclusiveSince r₁ r' entity b₁ b' := by
  rcases h with hsame | ⟨hlt, hnew, hmoved⟩
  · exact .inl (heq.trans hsame)
  · exact .inr ⟨heq ▸ hlt, heq ▸ hnew, hmoved.rises hr⟩

/-! ### Changes -/

/-- Nothing becomes of types whose builders are left alone. -/
theorem Since.frame (h : Since reach tokens r₁ log r) (hle : r.serial ≤ r'.serial)
    (hfound : ∀ e b, r.builder? e = some b → r'.builder? e = some b) :
    Since reach tokens r₁ log r' where
  serial := Nat.le_trans h.serial hle
  own hu hb₁ := by
    obtain ⟨b, hb, hrest⟩ := h.own hu hb₁
    exact ⟨b, hfound _ _ hb, hrest⟩
  inclusive hu hb₁ hb' := by
    obtain ⟨b, hb, -⟩ := h.own hu hb₁
    obtain rfl := Option.some.inj ((hfound _ _ hb).symm.trans hb')
    exact (h.inclusive hu hb₁ hb).rises (rises_of_found hfound) rfl

/-- A builder is replaced; if its type is one of those that it is about, that has to be answered for. -/
theorem Since.puts (h : Since reach tokens r₁ log r) (hputs : r.Puts entity b' serial r')
    (found : r.builder? entity = some b) (hle : r.serial ≤ serial) (hr : Rises r r')
    (hmore : ∀ k ∈ more, k.entity = entity)
    (hown : ∀ {b₁}, reach entity → r₁.builder? entity = some b₁ → b.facts = b₁.facts →
      OwnSince r₁.serial tokens b₁ (looksAt log entity) b.own →
      b'.facts = b₁.facts ∧ OwnSince r₁.serial tokens b₁ (looksAt (log ++ more) entity) b'.own)
    (hinclusive : ∀ {b₁}, reach entity → r₁.builder? entity = some b₁ → InclusiveSince r₁ r entity b₁ b →
      InclusiveSince r₁ r' entity b₁ b') : Since reach tokens r₁ (log ++ more) r' := by
  have hlooks : ∀ u, u ≠ entity → looksAt (log ++ more) u = looksAt log u := by
    intro u hu
    have hnone : looksAt more u = [] := by
      refine List.eq_nil_iff_forall_not_mem.mpr fun look hlook => ?_
      obtain ⟨k, hk, hku, -⟩ := mem_looksAt.mp hlook
      exact hu (hku.symm.trans (hmore k hk))
    rw [looksAt_append, hnone, List.append_nil]
  refine ⟨Nat.le_trans h.serial (hputs.serial.symm ▸ hle), fun {u b₁} hu hb₁ => ?_,
    fun {u b₁ c} hu hb₁ hc => ?_⟩
  · obtain ⟨c, hc, hfacts, hsince⟩ := h.own hu hb₁
    by_cases he : u = entity
    · subst he
      obtain rfl := Option.some.inj (found.symm.trans hc)
      exact ⟨b', hputs.self, hown hu hb₁ hfacts hsince⟩
    · exact ⟨c, (hputs.of_ne he).trans hc, hfacts, (hlooks u he).symm ▸ hsince⟩
  · by_cases he : u = entity
    · subst he
      obtain rfl := Option.some.inj (hputs.self.symm.trans hc)
      exact hinclusive hu hb₁ (h.inclusive hu hb₁ found)
    · exact (h.inclusive hu hb₁ ((hputs.of_ne he).symm.trans hc)).rises hr rfl

theorem inclusive_resolveOwn (b : Builder) (view : SourceView) (serial : Nat) :
    (b.resolveOwn view serial).builder.inclusive = b.inclusive := by
  have hstep := b.resolveOwn_step view serial
  generalize b.resolveOwn view serial = out at hstep
  cases hstep <;> rfl

theorem generation_resolveOwn_le (b : Builder) (view : SourceView) (serial : Nat) :
    b.own.generation ≤ (b.resolveOwn view serial).builder.own.generation := by
  have hstep := b.resolveOwn_step view serial
  generalize b.resolveOwn view serial = out at hstep
  cases hstep with
  | byVersion => exact Nat.le_of_eq (OwnSlot.forSource_generation ..).symm
  | byFingerprint => exact Nat.le_of_eq (OwnSlot.forSource_generation ..).symm
  | failed => exact Nat.le_of_eq (OwnSlot.forSource_generation ..).symm
  | built => exact Nat.le_succ _

/-- Where an inclusive slot is put together anew, one of its parts has moved. -/
theorem Since.moved_of_changed (h : Since reach tokens r₁ log r) (hbase : Based reach view r₁)
    (hu : reach entity) (hb₁ : r₁.builder? entity = some b₁) (hb : r.builder? entity = some b)
    (hsame : b.inclusive = b₁.inclusive) {parents : List (Edge × Resolved)}
    (hedges : parents.map Prod.fst = b.schema.edges) (hheld : ∀ p ∈ parents, r.Holds p.1.target p.2)
    (changed : Builder.keptInclusive? b.inclusive b.own.generation
      (parents.map fun p => p.2.generation) = none) : Moved r₁ r entity := by
  by_contra hnot
  obtain ⟨-, ⟨x, hx⟩, hownGeneration, hparentGenerations, -⟩ := (hbase.ready hu).found hb₁
  obtain ⟨c, hc, hfacts, hown⟩ := h.own hu hb₁
  obtain rfl := Option.some.inj (hb.symm.trans hc)
  have hschema : b.schema.edges = b₁.schema.edges := congrArg Facts.edges hfacts
  have hownSame : b₁.own.generation = b.own.generation := by
    generalize hslot : b.own = own at hown
    cases hown with
    | kept => rfl
    | moved _ later =>
      have hlt : b₁.own.generation < b.own.generation := by rwa [hslot]
      exact absurd (.inl ⟨b₁, b, hb₁, hb, hlt⟩) hnot
  have hparentsSame : (parents.map fun p => p.2.generation).map some =
      b₁.inclusive.parentGenerations.map some := by
    rw [generations_of_held hedges hheld, hparentGenerations, hschema]
    refine List.map_congr_left fun e he => ?_
    have htarget := hbase.edges hu hb₁ e he
    cases hbase.ready htarget with
    | @intro _ c₁ hc₁ =>
      obtain ⟨c, hc, -⟩ := h.own htarget hc₁
      unfold inclusiveGeneration reached
      rw [hc₁, hc, Option.map_some, Option.map_some]
      rcases h.inclusive htarget hc₁ hc with heq | ⟨hlt, -⟩
      · rw [heq]
      · exact absurd (.inr ⟨b₁, hb₁, e, he, c₁, c, hc₁, hc, hlt⟩) hnot
  have hgens := List.map_injective_iff.mpr (fun _ _ => Option.some.inj) hparentsSame
  unfold Builder.keptInclusive? at changed
  rw [hsame, if_pos ⟨hownGeneration.trans hownSame, hgens.symm⟩, hx] at changed
  cases changed

/-- What is put together from parts of which one has moved is a newer object. -/
theorem Since.newer_of_moved (h : Since reach tokens r₁ log r) (hbase : Based reach view r₁)
    (hu : reach entity) (hmoved : Moved r₁ r entity) (hb : r.builder? entity = some b) {own : Restriction}
    (built : b.own.restriction = some own) {parents : List (Edge × Resolved)}
    (hedges : parents.map Prod.fst = b.schema.edges) (hheld : ∀ p ∈ parents, r.Holds p.1.target p.2) :
    r₁.serial ≤ (Builder.combined own parents r.serial).1.serial := by
  refine Builder.combined_newer hbase.serial h.serial ?_
  rcases hmoved with ⟨b₁, c, hb₁, hc, hlt⟩ | ⟨b₁, hb₁, e, he, c₁, c, hc₁, hc, hlt⟩
  · refine .inl ?_
    obtain rfl := Option.some.inj (hb.symm.trans hc)
    obtain ⟨d, hd, -, hown⟩ := h.own hu hb₁
    obtain rfl := Option.some.inj (hb.symm.trans hd)
    dsimp only at hlt
    generalize b.own = slot at hown built hlt
    cases hown with
    | kept => exact absurd hlt (Nat.lt_irrefl _)
    | moved _ _ held newer =>
      obtain rfl := Option.some.inj (built.symm.trans held)
      exact newer
  · obtain ⟨d, hd, hfacts, -⟩ := h.own hu hb₁
    obtain rfl := Option.some.inj (hb.symm.trans hd)
    have hschema : b.schema.edges = b₁.schema.edges := congrArg Facts.edges hfacts
    have hp := he
    rw [← hschema, ← hedges] at hp
    obtain ⟨p, hparent, rfl⟩ := List.mem_map.mp hp
    refine .inr ⟨p, hparent, ?_⟩
    obtain ⟨q, hq, hrestriction, -⟩ := hheld p hparent
    obtain rfl := Option.some.inj (hc.symm.trans hq)
    rcases h.inclusive (hbase.edges hu hb₁ _ he) hc₁ hc with heq | ⟨-, ⟨x, hx, hnew⟩, -⟩
    · dsimp only at hlt
      rw [heq] at hlt
      exact absurd hlt (Nat.lt_irrefl _)
    · obtain rfl := Option.some.inj (hrestriction.symm.trans hx)
      exact hnew

/-- What the types need of a change: those that are consulted have an answer for the source, which keeps its
promise, and nothing more is known of them behind it. -/
structure Fair (reach : String → Prop) (view : SourceView) (promise : Promise) (r₁ : Registry)
    (log : List Consultation) (r' : Registry) : Prop where
  source : ∀ k ∈ log, reach k.entity → k.view.id = view.id
  answered : ∀ k ∈ log, reach k.entity → k.succeeded = true
  keeps : ∀ k ∈ log, k.view.id = view.id → k.view.Keeps promise
  facts : ∀ {u b₁ b'}, reach u → r₁.builder? u = some b₁ → r'.builder? u = some b' → b'.facts = b₁.facts

/-- Consultations of one source that have an answer are fair where the facts of the types are as they were. -/
theorem fair_of_facts
    (hlog : ∀ k ∈ log, reach k.entity → k.view.id = view.id ∧ k.succeeded = true)
    (hkeeps : ∀ k ∈ log, k.view.id = view.id → k.view.Keeps promise)
    (hfacts : ∀ u, reach u → r'.facts u = r₁.facts u) : Fair reach view promise r₁ log r' := by
  refine ⟨fun k hk hreach => (hlog k hk hreach).1, fun k hk hreach => (hlog k hk hreach).2, hkeeps,
    fun {u b₁ b'} hu hb₁ hb' => ?_⟩
  have hfact := hfacts u hu
  rw [facts_of_builder hb', facts_of_builder hb₁] at hfact
  exact Except.ok.inj hfact

/-- A builder of the types that is consulted has its own slot told by one look more. -/
theorem Since.consult (h : Since reach view.tokens r₁ log r) (hbase : Based reach view r₁)
    (found : r.builder? entity = some b) {look : SourceView}
    (puts : r.Puts entity (b.resolveOwn look r.serial).builder (b.resolveOwn look r.serial).serial r')
    (hfair : Fair reach view promise r₁ [⟨entity, look, (b.resolveOwn look r.serial).result.isOk⟩] r')
    (hstamped : Everywhere (fun _ b => Stamped promise view.id b) r) :
    Since reach view.tokens r₁ (log ++ [⟨entity, look, (b.resolveOwn look r.serial).result.isOk⟩]) r' := by
  have hle := (Shift.consulted found puts).serial_le
  have hr : Rises r r' := puts.rises found (generation_resolveOwn_le _ _ _)
    (Nat.le_of_eq (congrArg _ (inclusive_resolveOwn _ _ _)).symm)
  refine h.puts puts found (puts.serial ▸ hle) hr (fun k hk => by rw [List.mem_singleton.mp hk]) ?_
    fun _ _ hsince => hsince.rises hr (inclusive_resolveOwn _ _ _)
  intro b₁ hu hb₁ hfacts hown
  have hid := hfair.source _ (List.mem_singleton_self _) hu
  have hok := hfair.answered _ (List.mem_singleton_self _) hu
  have hkeeps := hfair.keeps _ (List.mem_singleton_self _) hid
  dsimp only at hid hok hkeeps
  obtain ⟨hfresh, -⟩ := (hbase.ready hu).found hb₁
  obtain ⟨x, hx⟩ := hfresh.built
  refine ⟨(facts_resolveOwn _ _ _).trans hfacts, ?_⟩
  have hlooks : looksAt [⟨entity, look, (b.resolveOwn look r.serial).result.isOk⟩] entity = [look] := by
    simp [looksAt]
  rw [looksAt_append, hlooks]
  exact hown.consult (congrArg Facts.classified hfacts) (hfresh.source.trans (congrArg some hid.symm)) hx
    (hbase.fingerprint hu hb₁) (hid.symm ▸ hstamped _ _ found) hkeeps h.serial hok

/-- An inclusive restriction of the types that is settled is kept, or one of its parts has moved and it is put
together as a newer object. -/
theorem Since.settle (h : Since reach view.tokens r₁ log r) (hbase : Based reach view r₁)
    (found : r.builder? entity = some b) {own : Restriction} (built : b.own.restriction = some own)
    {parents : List (Edge × Resolved)} (hedges : parents.map Prod.fst = b.schema.edges)
    (hheld : ∀ p ∈ parents, r.Holds p.1.target p.2)
    (puts : r.Puts entity (b.settle own b.own.generation parents true r.serial).1
      (b.settle own b.own.generation parents true r.serial).2.1 r') :
    Since reach view.tokens r₁ log r' := by
  have hle := (Shift.settled found built hedges hheld puts).serial_le
  have hstep := b.settle_step own b.own.generation parents r.serial
  have hfacts := facts_settle b own b.own.generation parents true r.serial
  generalize b.settle own b.own.generation parents true r.serial = out at hstep hfacts puts
  rw [← List.append_nil log]
  cases hstep with
  | kept =>
    have hr : Rises r r' := puts.rises found (Nat.le_refl _) (Nat.le_refl _)
    refine h.puts puts found (puts.serial ▸ hle) hr (fun k hk => by cases hk) ?_
      fun _ _ hsince => hsince.rises hr rfl
    intro b₁ _ _ hsame hown
    rw [List.append_nil]
    exact ⟨hsame, hown⟩
  | built changed =>
    have hr : Rises r r' := puts.rises found (Nat.le_refl _) (Nat.le_succ _)
    refine h.puts puts found (puts.serial ▸ hle) hr (fun k hk => by cases hk) ?_ ?_
    · intro b₁ _ _ hsame hown
      rw [List.append_nil]
      exact ⟨hfacts.trans hsame, hown⟩
    · intro b₁ hu hb₁ hsince
      have hmoved : Moved r₁ r entity := by
        rcases hsince with hsame | ⟨-, -, hmoved⟩
        · exact h.moved_of_changed hbase hu hb₁ found hsame hedges hheld changed
        · exact hmoved
      have hlt : b₁.inclusive.generation < b.inclusive.generation + 1 := by
        rcases hsince with hsame | ⟨hlt, -⟩
        · rw [hsame]
          exact Nat.lt_succ_self _
        · exact Nat.lt_succ_of_lt hlt
      exact .inr ⟨hlt, ⟨_, rfl, h.newer_of_moved hbase hu hmoved found built hedges hheld⟩, hmoved.rises hr⟩

/-- Every change of a registry keeps what is known to have become of the types. -/
theorem Since.shift (h : Since reach view.tokens r₁ log r) (hbase : Based reach view r₁)
    (hs : Shift r r' more) (hfair : Fair reach view promise r₁ more r')
    (hstamped : Everywhere (fun _ b => Stamped promise view.id b) r) :
    Since reach view.tokens r₁ (log ++ more) r' := by
  have hle := hs.serial_le
  cases hs with
  | kept builders _ =>
    rw [List.append_nil]
    exact h.frame hle fun e b hb => by rw [builders, hb]
  | made missing _ puts =>
    rw [List.append_nil]
    refine h.frame hle fun e b hb => (puts.of_ne ?_).trans hb
    rintro rfl
    cases missing.symm.trans hb
  | @classified entity b c found puts =>
    have hr : Rises r r' := puts.rises found (Nat.le_refl _) (Nat.le_refl _)
    refine h.puts puts found (Nat.le_refl _) hr (fun k hk => by cases hk) ?_
      fun _ _ hsince => hsince.rises hr rfl
    intro b₁ hu hb₁ hfacts _
    -- One more field would be known.
    have hmore := congrArg Facts.classified (hfair.facts hu hb₁ puts.self)
    have hsame := congrArg Facts.classified hfacts
    have hlength := congrArg List.length (hmore.trans hsame.symm)
    simp [Builder.facts] at hlength
  | consulted found puts => exact h.consult hbase found puts hfair hstamped
  | settled found built edges held puts =>
    rw [List.append_nil]
    exact h.settle hbase found built edges held puts

/-! ### Over a course -/

/-- More may be known of a type than before: fields that were classified since. -/
structure Learns (known known' : Facts) : Prop where
  schema : known'.schema = known.schema
  classified : known.classified <+: known'.classified

theorem Learns.refl (known : Facts) : Learns known known := ⟨rfl, List.prefix_rfl⟩

theorem Learns.trans {known known' known'' : Facts} (h : Learns known known') (h' : Learns known' known'') :
    Learns known known'' :=
  ⟨h'.schema.trans h.schema, h.classified.trans h'.classified⟩

theorem Learns.antisymm {known known' : Facts} (h : Learns known known') (h' : Learns known' known) :
    known' = known := by
  obtain ⟨schema, classified⟩ := known
  obtain ⟨schema', classified'⟩ := known'
  obtain rfl : schema' = schema := h.schema
  obtain rfl : classified' = classified :=
    h'.classified.eq_of_length (Nat.le_antisymm h'.classified.length_le h.classified.length_le)
  rfl

theorem Puts.learns (h : r.Puts entity b' serial r') (found : r.builder? entity = some b)
    (hb : Learns b.facts b'.facts) {e : String} {c : Builder} (hc : r.builder? e = some c) :
    ∃ c', r'.builder? e = some c' ∧ Learns c.facts c'.facts := by
  by_cases he : e = entity
  · subst he
    obtain rfl := Option.some.inj (found.symm.trans hc)
    exact ⟨b', h.self, hb⟩
  · exact ⟨c, (h.of_ne he).trans hc, .refl _⟩

theorem Shift.learns (h : Shift r r' log) (hb : r.builder? entity = some b) :
    ∃ b', r'.builder? entity = some b' ∧ Learns b.facts b'.facts := by
  cases h with
  | kept builders _ => exact ⟨b, by rw [builders, hb], .refl _⟩
  | made missing _ puts =>
    refine ⟨b, (puts.of_ne ?_).trans hb, .refl _⟩
    rintro rfl
    cases missing.symm.trans hb
  | classified c found puts => exact puts.learns found ⟨rfl, List.prefix_append _ _⟩ hb
  | consulted found puts => exact puts.learns found (facts_resolveOwn _ _ _ ▸ .refl _) hb
  | settled found _ _ _ puts => exact puts.learns found (facts_settle _ _ _ _ _ _ ▸ .refl _) hb

theorem Course.learns (h : Course r log r') (hb : r.builder? entity = some b) :
    ∃ b', r'.builder? entity = some b' ∧ Learns b.facts b'.facts := by
  induction h with
  | refl => exact ⟨b, hb, .refl _⟩
  | step _ hs ih =>
    obtain ⟨c, hc, hlearns⟩ := ih
    obtain ⟨b', hb', hmore⟩ := hs.learns hc
    exact ⟨b', hb', hlearns.trans hmore⟩

/-- What became of the types over a whole course. -/
theorem Based.since (hbase : Based reach view r₁) (h : Course r₁ log r)
    (hfair : Fair reach view promise r₁ log r)
    (hstamped : Everywhere (fun _ b => Stamped promise view.id b) r₁) :
    Since reach view.tokens r₁ log r := by
  induction h with
  | refl => exact .start _ _ _
  | @step log more r' r'' hc hs ih =>
    have hbefore : Fair reach view promise r₁ log r' := by
      refine ⟨fun k hk => hfair.source k (List.mem_append_left _ hk),
        fun k hk => hfair.answered k (List.mem_append_left _ hk),
        fun k hk => hfair.keeps k (List.mem_append_left _ hk), fun {u b₁ c} hu hb₁ hb => ?_⟩
      -- What is known at the end was known all the time.
      obtain ⟨c', hc', hlearns⟩ := hc.learns hb₁
      obtain rfl := Option.some.inj (hc'.symm.trans hb)
      obtain ⟨d, hd, hmore⟩ := hs.learns hb
      rw [hfair.facts hu hb₁ hd] at hmore
      exact hlearns.antisymm hmore
    have hlast : Fair reach view promise r₁ more r'' :=
      ⟨fun k hk => hfair.source k (List.mem_append_right _ hk),
        fun k hk => hfair.answered k (List.mem_append_right _ hk),
        fun k hk => hfair.keeps k (List.mem_append_right _ hk), hfair.facts⟩
    have hthen := hc.everywhere (Builder.lasting_stamped promise view.id)
      (fun k hk hid => (hbefore.keeps k hk hid).version) hstamped
    exact (ih hbefore).shift hbase hs hlast hthen

/-! ### Slots that are as they were -/

/-- The inclusive slot of a type is as it was. -/
def SameInclusive (r₁ r : Registry) (entity : String) : Prop :=
  ∀ b₁ b, r₁.builder? entity = some b₁ → r.builder? entity = some b → b.inclusive = b₁.inclusive

/-- All looks at a type had the fingerprint of the first one. -/
def SameLooks (tokens : String → List String) (r₁ : Registry) (log : List Consultation) (entity : String) :
    Prop :=
  ∀ b₁, r₁.builder? entity = some b₁ → ∀ look ∈ looksAt log entity,
    b₁.fingerprintOf look.tokens = b₁.fingerprintOf tokens

/-- Where all looks at the types are the same, no part moves. -/
theorem Since.not_moved (h : Since reach tokens r₁ log r) (hlooks : ∀ {u}, reach u → SameLooks tokens r₁ log u)
    (hedges : ∀ {u b₁}, reach u → r₁.builder? u = some b₁ → ∀ e ∈ b₁.schema.edges, reach e.target)
    (hready : Ready view r₁ entity) (hu : reach entity) : ¬ Moved r₁ r entity := by
  induction hready with
  | @intro entity b₁ found own built sameOwn sameParents ancestors ih =>
    rintro (⟨c₁, b, hc₁, hb, hlt⟩ | ⟨c₁, hc₁, e, he, d₁, d, hd₁, hd, hlt⟩)
    · obtain ⟨c, hc, -, hown⟩ := h.own hu hc₁
      obtain rfl := Option.some.inj (hb.symm.trans hc)
      dsimp only at hlt
      generalize b.own = slot at hown hlt
      cases hown with
      | kept => exact Nat.lt_irrefl _ hlt
      | moved differs =>
        obtain ⟨look, hlook, hne⟩ := differs
        exact hne (hlooks hu c₁ hc₁ look hlook)
    · obtain rfl := Option.some.inj (found.symm.trans hc₁)
      have htarget := hedges hu found e he
      rcases h.inclusive htarget hd₁ hd with heq | ⟨-, -, hmoved⟩
      · dsimp only at hlt
        rw [heq] at hlt
        exact Nat.lt_irrefl _ hlt
      · exact ih e he htarget hmoved

/-- Where all looks at the types are the same, inclusive slots are as they were. -/
theorem Since.sameInclusive (h : Since reach tokens r₁ log r) (hbase : Based reach view r₁)
    (hlooks : ∀ {u}, reach u → SameLooks tokens r₁ log u) (hu : reach entity) :
    SameInclusive r₁ r entity := by
  intro b₁ b hb₁ hb
  rcases h.inclusive hu hb₁ hb with heq | ⟨-, -, hmoved⟩
  · exact heq
  · exact absurd hmoved (h.not_moved hlooks hbase.edges (hbase.ready hu) hu)

/-- Where types are ready again and the inclusive slot of one is as it was, so are those that its edges lead
to. -/
theorem SameInclusive.target (hsame : SameInclusive r₁ r entity) (h : Since reach tokens r₁ log r)
    (hbase : Based reach view r₁) {look : SourceView} (hready : Ready look r entity) (hu : reach entity)
    (hb₁ : r₁.builder? entity = some b₁) {e : Edge} (he : e ∈ b₁.schema.edges) :
    SameInclusive r₁ r e.target := by
  intro c₁ c hc₁ hc
  obtain ⟨b, hb, hfacts, -⟩ := h.own hu hb₁
  obtain ⟨-, -, -, hgens₁, -⟩ := (hbase.ready hu).found hb₁
  obtain ⟨-, -, -, hgens, -⟩ := hready.found hb
  have hschema : b.schema.edges = b₁.schema.edges := congrArg Facts.edges hfacts
  rw [hsame b₁ b hb₁ hb, hgens₁, hschema] at hgens
  have hgen := List.map_inj_left.mp hgens e he
  unfold inclusiveGeneration reached at hgen
  rw [hc₁, hc, Option.map_some, Option.map_some] at hgen
  rcases h.inclusive (hbase.edges hu hb₁ e he) hc₁ hc with heq | ⟨hlt, -⟩
  · exact heq
  · exact absurd (Option.some.inj hgen) (Nat.ne_of_lt hlt)

/-- Where a type is ready again and its inclusive slot is as it was, all looks at it are the same. -/
theorem SameInclusive.looks (hsame : SameInclusive r₁ r entity) (h : Since reach tokens r₁ log r)
    (hbase : Based reach view r₁) {look : SourceView} (hready : Ready look r entity) (hu : reach entity) :
    SameLooks tokens r₁ log entity := by
  intro b₁ hb₁
  obtain ⟨b, hb, -, hown⟩ := h.own hu hb₁
  obtain ⟨-, -, hgen₁, -⟩ := (hbase.ready hu).found hb₁
  obtain ⟨-, -, hgen, -⟩ := hready.found hb
  rw [hsame b₁ b hb₁ hb, hgen₁] at hgen
  generalize b.own = slot at hown hgen
  cases hown with
  | kept _ same => exact same
  | moved _ later => exact absurd hgen (Nat.ne_of_lt later)

/-- Types that a type reaches are ready where it is, and where the tokens have the fingerprints in their slots. -/
theorem based_of_ready (hserial : 0 < r₁.serial) (hready : Ready view r₁ entity)
    (hstamped : Everywhere (fun _ b => Stamped promise view.id b) r₁) (hk : view.Keeps promise) :
    Based (Facts.Reaches r₁.facts entity) view r₁ where
  serial := hserial
  ready hu := hready.reaches hu
  edges hu hb₁ _ he := hu.trans (Facts.reaches_edge (facts_of_builder hb₁) he)
  fingerprint hu hb₁ := (((hready.reaches hu).found hb₁).1.steady (hstamped _ _ hb₁) hk.version).fingerprint

/-- Along chains, inclusive slots are as they were where the first is. -/
theorem SameInclusive.chain {edges : List Edge} {look : SourceView} (hsame : SameInclusive r₁ r entity)
    (h : Since reach tokens r₁ log r) (hbase : Based reach view r₁)
    (hready : ∀ {u}, reach u → Ready look r u) (hu : reach entity)
    (hchain : Facts.Chain r₁.facts entity edges u) : SameInclusive r₁ r u := by
  induction edges generalizing entity with
  | nil =>
    obtain rfl : entity = u := hchain
    exact hsame
  | cons e rest ih =>
    obtain ⟨⟨known, hknown, he⟩, hrest⟩ := hchain
    cases hbase.ready hu with
    | @intro _ b₁ hb₁ =>
      obtain rfl := Except.ok.inj (hknown.symm.trans (facts_of_builder hb₁))
      exact ih (hsame.target h hbase (hready hu) hu hb₁ he) (hbase.edges hu hb₁ e he) hrest

/-- A type that is ready again keeps the same object as before just if all looks at the types that it reaches
were the same. -/
theorem Since.serial_eq_iff {look : SourceView} {x y : Restriction}
    (h : Since (Facts.Reaches r₁.facts entity) tokens r₁ log r)
    (hbase : Based (Facts.Reaches r₁.facts entity) view r₁) (hnumbered : Everywhere Builder.Numbered r₁)
    (hready : ∀ {u}, Facts.Reaches r₁.facts entity u → Ready look r u)
    (hb₁ : r₁.builder? entity = some b₁) (hx : b₁.inclusive.restriction = some x)
    (hb : r.builder? entity = some b) (hy : b.inclusive.restriction = some y) :
    x.serial = y.serial ↔ ∀ {u}, Facts.Reaches r₁.facts entity u → SameLooks tokens r₁ log u := by
  have hself := Facts.Reaches.refl r₁.facts entity
  constructor
  · intro heq u hu
    have hsame : SameInclusive r₁ r entity := by
      intro c₁ c hc₁ hc
      obtain rfl := Option.some.inj (hb₁.symm.trans hc₁)
      obtain rfl := Option.some.inj (hb.symm.trans hc)
      rcases h.inclusive hself hb₁ hb with hsame | ⟨-, ⟨z, hz, hnewer⟩, -⟩
      · exact hsame
      · -- A newer object has a serial number that was not given out before.
        obtain rfl := Option.some.inj (hy.symm.trans hz)
        have hopen : Restriction.openSerial < r₁.serial := hbase.serial
        rcases (hnumbered _ _ hb₁).inclusive hx with hnumber | hnumber
        · omega
        · omega
    obtain ⟨edges, hchain⟩ := hu
    exact (hsame.chain h hbase hready hself hchain).looks h hbase (hready ⟨edges, hchain⟩) ⟨edges, hchain⟩
  · intro hlooks
    have hslot := h.sameInclusive hbase hlooks hself b₁ b hb₁ hb
    rw [hslot, hx] at hy
    rw [Option.some.inj hy]

end Registry

end RowAccess
