import Mathlib.Data.List.Basic
import Mathlib.Tactic.Common
import RowAccess.Proofs.Registry.Bound
import RowAccess.Proofs.Registry.Chain
import RowAccess.Proofs.Registry.Frame
import RowAccess.Proofs.Registry.InclusiveSlot

/-!
# Types without cycles

Where no cycle of edges is within reach of a type, a traversal that starts there never comes to a type that is
being visited, and so no cycle is cut: an answer for the type is complete.
-/

namespace RowAccess

open RowAccess.Builder (Resolved)

namespace Facts

variable {facts : String → Except Fault Facts} {start mid stop : String} {edges more : List Edge} {e : Edge}
  {known : Facts}

/-- Some chain of edges leads from a type to another, which may be itself. -/
def Reaches (facts : String → Except Fault Facts) (start stop : String) : Prop :=
  ∃ edges, Chain facts start edges stop

/-- No chain of edges leads in a cycle that a type reaches. -/
def Acyclic (facts : String → Except Fault Facts) (start : String) : Prop :=
  ∀ stop, Reaches facts start stop → ∀ edges, Chain facts stop edges stop → edges = []

theorem Chain.append (h : Chain facts start edges mid) (h' : Chain facts mid more stop) :
    Chain facts start (edges ++ more) stop := by
  induction edges generalizing start with
  | nil =>
    obtain rfl : start = mid := h
    exact h'
  | cons e rest ih => exact ⟨h.1, ih h.2⟩

theorem Reaches.refl (facts : String → Except Fault Facts) (start : String) : Reaches facts start start :=
  ⟨[], rfl⟩

theorem Reaches.trans (h : Reaches facts start mid) (h' : Reaches facts mid stop) :
    Reaches facts start stop := by
  obtain ⟨edges, h⟩ := h
  obtain ⟨more, h'⟩ := h'
  exact ⟨edges ++ more, h.append h'⟩

theorem reaches_edge (hknown : facts start = .ok known) (he : e ∈ known.edges) :
    Reaches facts start e.target :=
  ⟨[e], ⟨known, hknown, he⟩, rfl⟩

theorem Acyclic.of_reaches (h : Acyclic facts start) (hr : Reaches facts start mid) : Acyclic facts mid :=
  fun stop hs => h stop (hr.trans hs)

/-- The end of an edge does not lead back. -/
theorem Acyclic.not_back (h : Acyclic facts start) (hknown : facts start = .ok known) (he : e ∈ known.edges) :
    ¬ Reaches facts e.target start := by
  rintro ⟨edges, hchain⟩
  cases h start (.refl facts start) (e :: edges) ⟨⟨known, hknown, he⟩, hchain⟩

/-- A chain depends on the facts of the types on its way. -/
theorem Chain.congr {facts' : String → Except Fault Facts}
    (hsame : ∀ t, Reaches facts start t → facts' t = facts t) (h : Chain facts' start edges stop) :
    Chain facts start edges stop := by
  induction edges generalizing start with
  | nil => exact h
  | cons e rest ih =>
    obtain ⟨⟨known, hknown, he⟩, hrest⟩ := h
    have hknown' : facts start = .ok known := (hsame start (.refl facts start)).symm.trans hknown
    exact ⟨⟨known, hknown', he⟩,
      ih (fun t ht => hsame t ((reaches_edge hknown' he).trans ht)) hrest⟩

theorem Reaches.congr {facts' : String → Except Fault Facts}
    (hsame : ∀ t, Reaches facts start t → facts' t = facts t) (h : Reaches facts' start stop) :
    Reaches facts start stop := by
  obtain ⟨edges, hchain⟩ := h
  exact ⟨edges, hchain.congr hsame⟩

/-- What was reached before is reached still. -/
theorem Reaches.still {facts' : String → Except Fault Facts}
    (hsame : ∀ t, Reaches facts start t → facts' t = facts t) (h : Reaches facts start stop) :
    Reaches facts' start stop :=
  h.congr fun t ht => (hsame t (ht.congr hsame)).symm

theorem Acyclic.congr {facts' : String → Except Fault Facts}
    (hsame : ∀ t, Reaches facts start t → facts' t = facts t) (h : Acyclic facts start) :
    Acyclic facts' start := by
  intro stop hreach edges hchain
  have hstop := hreach.congr hsame
  exact h stop hstop edges (hchain.congr fun t ht => hsame t (hstop.trans ht))

/-- There is no cycle where edges lead to types of a lower rank only. -/
theorem acyclic_of_rank (rank : String → Nat)
    (h : ∀ {t known}, facts t = .ok known → ∀ e ∈ known.edges, rank e.target < rank t) (start : String) :
    Acyclic facts start := by
  have hrank : ∀ {edges : List Edge} {start stop : String}, Chain facts start edges stop →
      rank stop + edges.length ≤ rank start := by
    intro edges
    induction edges with
    | nil =>
      intro start stop hchain
      obtain rfl : start = stop := hchain
      exact Nat.le_refl _
    | cons e rest ih =>
      rintro start stop ⟨⟨known, hknown, he⟩, hchain⟩
      have hfirst := h hknown e he
      have hrest := ih hchain
      rw [List.length_cons]
      omega
  intro stop _ edges hchain
  have hle := hrank hchain
  exact List.eq_nil_of_length_eq_zero (by omega)

end Facts

namespace Registry

open Facts (Reaches Acyclic)

variable {visit : Traversal → String → Traversal × Except Fault Resolved}
  {facts : String → Except Fault Facts} {visiting : List String}

/-- Where no edge leads to a type that is being visited, and visits of the others are complete, all are. -/
theorem complete_parents (hc : ∀ t entity, Continues t (visit t entity).1) :
    ∀ {edges : List Edge}, (∀ e ∈ edges, e.target ∉ visiting) →
      (∀ t, t.registry.facts = facts → t.visiting = visiting → ∀ e ∈ edges, ∀ p,
        (visit t e.target).2 = .ok p → p.complete = true) →
      ∀ t, t.registry.facts = facts → t.visiting = visiting → ∀ parents complete,
        (resolveParents visit t edges).2 = .ok (parents, complete) → complete = true
  | [], _, _, _, _, _, _, _, h => (Prod.mk.inj (Except.ok.inj h)).2.symm
  | e :: rest, hnot, hv, t, hf, hvis, parents, complete, h => by
      have hnew : ¬ t.visiting.contains e.target = true := by
        rw [hvis]
        exact fun hin => hnot e List.mem_cons_self (List.contains_iff_mem.mp hin)
      have hcont := hc t e.target
      have hfirst := hv t hf hvis e List.mem_cons_self
      unfold resolveParents at h
      rw [if_neg hnew] at h
      generalize visit t e.target = out at hcont hfirst h
      obtain ⟨t', result⟩ := out
      cases result with
      | error f => cases h
      | ok x =>
        have hrest := complete_parents hc (fun e' he' => hnot e' (List.mem_cons_of_mem _ he'))
          (fun t hf hvis e' he' => hv t hf hvis e' (List.mem_cons_of_mem _ he')) t'
          (hcont.extension.facts.trans hf) (hcont.visiting.trans hvis)
        dsimp only at h
        generalize resolveParents visit t' rest = out at hrest h
        obtain ⟨t'', result⟩ := out
        cases result with
        | error f => cases h
        | ok y =>
          obtain ⟨-, rfl⟩ := Prod.mk.inj (Except.ok.inj h)
          rw [hfirst x rfl, hrest y.1 y.2 rfl]
          rfl

/-- A builder has a complete answer where its parents have. -/
theorem complete_compose {view : SourceView} {t : Traversal} {b : Builder} {p : Resolved}
    (hb : t.registry.builder? b.entity = some b)
    (hparents : ∀ t', t'.registry.facts = t.registry.facts → t'.visiting = t.visiting →
      ∀ parents complete, (resolveParents visit t' b.schema.edges).2 = .ok (parents, complete) →
        complete = true)
    (h : (compose visit view t b).2 = .ok p) : p.complete = true := by
  have hext := extends_resolveOwn hb view
  unfold compose at h
  generalize t.registry.resolveOwn view b = out at hext h
  obtain ⟨r₁, result⟩ := out
  cases result with
  | error f => cases h
  | ok x =>
    have hall := hparents { t with registry := r₁ } hext.facts rfl
    dsimp only at h
    generalize resolveParents visit { t with registry := r₁ } b.schema.edges = out at hall h
    obtain ⟨t₂, result⟩ := out
    cases result with
    | error f => cases h
    | ok y =>
      dsimp only at h
      cases hb₂ : t₂.registry.builder? b.entity with
      | none =>
        rw [hb₂] at h
        cases h
      | some b₂ =>
        rw [hb₂] at h
        obtain rfl := Except.ok.inj h
        rw [Builder.settle_complete]
        exact hall y.1 y.2 rfl

/-- An answer for a type is complete if no cycle is within its reach, and no type that is being visited. -/
theorem complete_resolve (view : SourceView) :
    ∀ (fuel : Nat) (t : Traversal) (entity : String), Acyclic t.registry.facts entity →
      (∀ v ∈ t.visiting, ¬ Reaches t.registry.facts entity v) →
      ∀ p, (resolve view fuel t entity).2 = .ok p → p.complete = true
  | 0, _, _, _, _, _, h => by cases h
  | fuel + 1, t, entity, hacyclic, hnot, p, h => by
      have hext := extends_get t.registry entity
      unfold resolve at h
      cases hg : t.registry.get entity with
      | mk r result =>
        rw [hg] at hext h
        cases result with
        | error f => cases h
        | ok b =>
          have hb := get_ok hg
          obtain rfl := builder?_entity hb
          have hfacts : r.facts = t.registry.facts := hext.facts
          have hknown : t.registry.facts b.entity = .ok b.facts := hfacts ▸ facts_of_builder hb
          -- No edge leads to a type that is being visited then.
          have hnext : ∀ e ∈ b.schema.edges, ∀ v ∈ t.visiting ++ [b.entity],
              ¬ Reaches t.registry.facts e.target v := by
            intro e he v hv hreach
            rcases List.mem_append.mp hv with hv | hv
            · exact hnot v hv ((Facts.reaches_edge hknown he).trans hreach)
            · rw [List.mem_singleton.mp hv] at hreach
              exact hacyclic.not_back hknown he hreach
          refine complete_compose (t := ⟨r, t.visiting ++ [b.entity]⟩) hb ?_ h
          intro t' hf' hvis'
          refine complete_parents (continues_resolve view fuel) (fun e he hv => ?_)
            (fun t'' hf'' hvis'' e he => ?_) t' hf' hvis'
          · exact hnext e he e.target hv (.refl _ _)
          · have hsame : t''.registry.facts = t.registry.facts := hf''.trans hfacts
            refine complete_resolve view fuel t'' e.target ?_ ?_
            · rw [hsame]
              exact hacyclic.of_reaches (Facts.reaches_edge hknown he)
            · rw [hsame, hvis'']
              exact hnext e he

end Registry

end RowAccess
