import Mathlib.Data.List.Basic
import Mathlib.Tactic.Common
import RowAccess.Proofs.Access.Hearing

/-!
# Lines do not disturb each other

A line that others spare hears the same in their midst as it hears alone. A run with the others is compared
with the run of the line's own steps, step by step: others' steps leave the two alike, and so do the line's
own ones, which are answered the same.
-/

namespace RowAccess

namespace Access

open Registry (Coherent)

variable {line : Nat} {v w : Sight} {a b : Access} {known known' : Names} {turns : List Turn}
  {promise promise' : Promise}

/-! ### The start -/

theorem standing_exists (ha : a.InTree) {n : Nat} (hn : n ∈ a.standing line) :
    ∃ s, a.stack.scope? n = some s ∧ ∀ p, s.parent = some p → p ∈ a.standing line := by
  have hplaced := ha.place line
  unfold standing at hn ⊢
  cases hp : a.place line with
  | none =>
    rw [hp] at hn
    obtain ⟨r, hr, hparent, -⟩ := ha.tree.root
    rw [List.mem_singleton.mp hn]
    exact ⟨r, hr, fun p hp => by rw [hparent] at hp; cases hp⟩
  | some path =>
    rw [hp] at hn
    obtain ⟨m, s, -, hs, rfl⟩ := hplaced path hp
    rw [Option.getD_some, ← ha.tree.lineage_serials hs] at hn ⊢
    rcases List.mem_cons.mp hn with rfl | hn
    · obtain ⟨r, hr, hparent, -⟩ := ha.tree.root
      exact ⟨r, hr, fun p hp => by rw [hparent] at hp; cases hp⟩
    · obtain ⟨s', hs', hall⟩ := ha.tree.mem_lineage hn
      exact ⟨s', hs', fun p hp => List.mem_cons_of_mem _ (hall p hp)⟩

/-- The line sees the scopes that it is in and those that it knows. -/
theorem mem_seen (ha : a.InTree) {n : Nat} {s : Scope} (hs : a.stack.scope? n = some s)
    (hn : n ∈ a.standing line ++ known.scopes) : n ∈ (a.reach line known).seen :=
  List.mem_flatMap.mpr ⟨n, hn, ha.tree.self_mem_lineage hs⟩

theorem seen_exists (ha : a.InTree) {n : Nat} (hn : n ∈ (a.reach line known).seen) :
    ∃ s, a.stack.scope? n = some s ∧ ∀ p, s.parent = some p → p ∈ (a.reach line known).seen := by
  obtain ⟨m, hm, hn⟩ := List.mem_flatMap.mp hn
  obtain ⟨s, hs, hall⟩ := ha.tree.mem_lineage hn
  exact ⟨s, hs, fun p hp => List.mem_flatMap.mpr ⟨m, hm, hall p hp⟩⟩

/-- The scopes that the line sees, before it entered any. -/
def scopeSight (a : Access) (line : Nat) (known : Names) : Sight :=
  ⟨a.stack.scopes.length, (a.reach line known).seen, (a.reach line known).inside, []⟩

/-- The tables that the line uses, before it added any. -/
def tableSight (a : Access) (line : Nat) (known : Names) : Sight :=
  ⟨a.sources.length, (a.reach line known).tables, [], []⟩

theorem stack_alike_self (ha : a.InTree) : (a.scopeSight line known).Alike a.stack a.stack := by
  refine Sight.alike_self List.mem_cons_self ?_ (fun n => seen_exists ha) ?_
  · intro n hn
    obtain ⟨s, hs, -⟩ := standing_exists ha hn
    exact mem_seen ha hs (List.mem_append_left _ hn)
  · intro n hn s p hs hp
    obtain ⟨s', hs', hall⟩ := standing_exists ha hn
    obtain rfl := Option.some.inj (hs.symm.trans hs')
    exact hall p hp

theorem samePlace_self (ha : a.InTree) :
    (a.scopeSight line known).SamePlace a.stack a.stack (a.place line) (a.place line) := by
  have hplaced := ha.place line
  cases hp : a.place line with
  | none => exact .outside
  | some path =>
    obtain ⟨n, s, hroot, hs, rfl⟩ := hplaced path hp
    have hin : n ∈ a.standing line := by
      unfold standing
      rw [hp]
      exact List.mem_cons_of_mem _ (List.mem_of_head? (ha.tree.path_head hs))
    refine .within hroot (.inl hin) ?_ hs
    have hrename : (a.scopeSight line known).rename n = n :=
      Sight.rename_of_lt (ScopeStack.scope?_lt hs)
    rw [hrename]
    exact hs

theorem sameTables_self (htables : ∀ n ∈ (a.reach line known).tables, n < a.sources.length) :
    (a.tableSight line known).SameTables a.sources a.sources := by
  refine ⟨.start htables, fun {n} hn => ?_⟩
  have hlt := htables n (hn.resolve_right Sight.not_made_start)
  have hrename : (a.tableSight line known).rename n = n := Sight.rename_of_lt hlt
  rw [hrename, List.getElem?_eq_getElem hlt]
  exact ⟨_, rfl, rfl⟩

theorem uses_standard {s : SourceRef} (hs : a.registry.source = some s) :
    (a.tableSight line known).Uses s := by
  cases s with
  | stack => trivial
  | made n =>
    refine .inl (List.mem_append_left _ ?_)
    unfold standardTables
    rw [hs]
    exact List.mem_singleton_self n

/-- An access control is like itself for a line of which the tables exist. -/
theorem alike_self (ha : a.InTree) (hline : line < a.places.length)
    (htables : ∀ n ∈ (a.reach line known).tables, n < a.sources.length) :
    Alike line (a.scopeSight line known) (a.tableSight line known) a a where
  tree := ha
  tree' := ha
  stack := stack_alike_self ha
  place := samePlace_self ha
  here := hline
  here' := hline
  tables := sameTables_self htables
  source := by
    cases hs : a.registry.source with
    | none => rfl
    | some s =>
      have huses : (a.tableSight line known).Uses s := uses_standard hs
      cases s with
      | stack => rfl
      | made n =>
        have hn := htables n (huses.resolve_right Sight.not_made_start)
        exact congrArg (some ∘ SourceRef.made) (Sight.rename_of_lt hn).symm
  uses s hs := uses_standard hs
  facts := rfl

theorem names_self (ha : a.InTree) (hscopes : ∀ n ∈ known.scopes, n < a.stack.scopes.length)
    (htables : ∀ n ∈ (a.reach line known).tables, n < a.sources.length) :
    Names.Alike (a.scopeSight line known) (a.tableSight line known) known known := by
  constructor
  · refine Sight.sameNumbers_start ?_ fun n hn => ?_
    · intro n hn
      obtain ⟨s, hs, -⟩ := seen_exists ha hn
      exact ScopeStack.scope?_lt hs
    · exact mem_seen ha (List.getElem?_eq_getElem (hscopes n hn)) (List.mem_append_right _ hn)
  · exact Sight.sameNumbers_start htables fun n hn => List.mem_append_right _ hn

theorem reach_self :
    Sight.reach (a.scopeSight line known) (a.tableSight line known) = a.reach line known := by
  unfold Sight.reach scopeSight tableSight
  simp only [List.append_nil]

/-! ### Whole runs -/

/-- What the line sees of sources alone, it sees in the midst of others. -/
theorem Alike.observed (h : Alike line v w a b) (hn : Names.Alike v w known known')
    (hu : a.Undisturbed line (Sight.reach v w) known turns) :
    ∀ y ∈ b.observed (b.spelled line known' (turns.filter Turn.isOwn)),
      ∃ x ∈ a.observed (a.spelled line known turns), x.Matches y := by
  induction turns generalizing v w a b known known' with
  | nil => exact fun y hy => absurd hy List.not_mem_nil
  | cons turn rest ih =>
    cases turn with
    | own action =>
      obtain ⟨hr, hrest⟩ := hu
      obtain ⟨v', w', h', hn', hreach⟩ := h.own hn hr
      intro y hy
      rcases List.mem_append.mp hy with hy | hy
      · obtain ⟨x, hx, hxy⟩ := h.sees hn hy
        exact ⟨x, List.mem_append_left _ hx, hxy⟩
      · obtain ⟨x, hx, hxy⟩ := ih h' hn' (hreach ▸ hrest) y hy
        exact ⟨x, List.mem_append_right _ hx, hxy⟩
    | other l action =>
      obtain ⟨hl, hs, hrest⟩ := hu
      intro y hy
      obtain ⟨x, hx, hxy⟩ := ih (h.other hl hs) hn hrest y hy
      exact ⟨x, List.mem_append_right _ hx, hxy⟩

/-- What the line hears in the midst of others, it hears alone. -/
theorem Alike.heard (h : Alike line v w a b) (hn : Names.Alike v w known known')
    (hu : a.Undisturbed line (Sight.reach v w) known turns)
    (hc : ∃ l, Coherent promise l a.registry)
    (hk : ∀ view ∈ a.observed (a.spelled line known turns), view.Keeps promise)
    (hc' : ∃ l, Coherent promise' l b.registry)
    (hk' : ∀ view ∈ b.observed (b.spelled line known' (turns.filter Turn.isOwn)),
      view.Keeps promise') :
    a.heard line known turns = b.heard line known' (turns.filter Turn.isOwn) := by
  induction turns generalizing v w a b known known' with
  | nil => rfl
  | cons turn rest ih =>
    cases turn with
    | own action =>
      obtain ⟨hr, hrest⟩ := hu
      obtain ⟨v', w', h', hn', hreach⟩ := h.own hn hr
      have hkhead := fun view hview => hk view (List.mem_append_left _ hview)
      have hkhead' := fun view hview => hk' view (List.mem_append_left _ hview)
      rw [List.filter_cons_of_pos rfl, heard_own, heard_own, h.answer hn hr hc hkhead hc' hkhead']
      refine congrArg _ (ih h' hn' (hreach ▸ hrest) ?_ ?_ ?_ ?_)
      · exact (perform_registry a line _).coherent hc hkhead
      · exact fun view hview => hk view (List.mem_append_right _ hview)
      · exact (perform_registry b line _).coherent hc' hkhead'
      · exact fun view hview => hk' view (List.mem_append_right _ hview)
    | other l action =>
      obtain ⟨hl, hs, hrest⟩ := hu
      rw [List.filter_cons_of_neg Bool.false_ne_true, heard_other hl]
      refine ih (h.other hl hs) hn hrest ?_ ?_ hc' hk'
      · exact (perform_registry a l action).coherent hc
          fun view hview => hk view (List.mem_append_left _ hview)
      · exact fun view hview => hk view (List.mem_append_right _ hview)

/-- After any run, take a line with the scopes and tables that it knows, and turns of it and of other lines
in which no type is described and the others spare what the line depends on. With faithful sources, the line
is answered in these turns just what it is answered where it takes its own turns alone, up to the numbers of
what it makes and of the predicates that it gets. -/
theorem heard_alone (c : Catalog) (m : Matcher) (before : List (Nat × Action)) (line : Nat)
    (known : Names) (turns : List Turn) :
    let a := ((separate c m).run before).1
    line < a.places.length → (∀ n ∈ known.scopes, n < a.stack.scopes.length) →
      (∀ n ∈ (a.reach line known).tables, n < a.sources.length) →
      a.Undisturbed line (a.reach line known) known turns →
      Faithful ((separate c m).observed (before ++ a.spelled line known turns)) →
      a.heard line known turns = a.heard line known (turns.filter Turn.isOwn) := by
  intro a hline hscopes htables hturns hfaithful
  have ha : a.InTree := (inTree_separate c m).run before
  have halike := alike_self ha hline htables
  have hnames := names_self ha hscopes htables
  rw [← reach_self] at hturns
  -- The run alone is faithful as well, so that nothing that is kept shows in either of them.
  have halone : Faithful ((separate c m).observed
      (before ++ a.spelled line known (turns.filter Turn.isOwn))) := by
    refine hfaithful.of_matches fun y hy => ?_
    rw [observed_append] at hy ⊢
    rcases List.mem_append.mp hy with hy | hy
    · exact ⟨y, List.mem_append_left _ hy, .refl y⟩
    · obtain ⟨x, hx, hxy⟩ := halike.observed hnames hturns y hy
      exact ⟨x, List.mem_append_right _ hx, hxy⟩
  obtain ⟨promise, hk⟩ := exists_promise hfaithful
  obtain ⟨promise', hk'⟩ := exists_promise halone
  rw [observed_append] at hk hk'
  have hnew : ∀ q : Promise, ∃ l, Coherent q l (separate c m).registry :=
    fun q => ⟨.empty, Registry.coherent_new q c⟩
  refine halike.heard hnames hturns (coherent_run (hnew promise) ?_) ?_
    (coherent_run (hnew promise') ?_) ?_
  · exact fun view hview => hk view (List.mem_append_left _ hview)
  · exact fun view hview => hk view (List.mem_append_right _ hview)
  · exact fun view hview => hk' view (List.mem_append_left _ hview)
  · exact fun view hview => hk' view (List.mem_append_right _ hview)

/-- Two lines, both outside of all scopes. -/
def twoLines : Access := ((separate orders .standard).run [(0, .branch false)]).1

/-- Each line gets a region in a scope of its own and asks for orders. -/
def twoRegions : List Turn :=
  [.other 1 .enter, .other 1 (.addClearances .current "region" ["US"]),
    .own .enter, .own (.addClearances (.numbered 0) "region" ["EU"]),
    .other 1 (.ownRestriction (some .stack) "orders"),
    .own (.ownRestriction (some .stack) "orders"), .other 1 (.exit 1)]

theorem reach_twoLines : twoLines.reach 0 ⟨[], []⟩ = ⟨[0], [0], []⟩ := by
  unfold reach
  show Reach.mk ((ScopeStack.lineage (.new .standard) 0).map Scope.serial ++ []) _ _ = _
  rw [ScopeStack.lineage]
  rfl

/-- The tokens of a scope in a root without tokens, of which the scope's table has one entry, fit. -/
theorem fits_entry {t : ScopeStack} {n : Nat} {s : Scope} {e : String × List String}
    (hs : t.scope? n = some s) (hparent : s.parent = some 0) (hn : 0 < n)
    (hroot : t.scope? 0 = some .root) (htable : s.clearances = [e])
    (hempty : Fingerprint.FitsTokens (Scope.distinct [[], []]))
    (he : Fingerprint.FitsTokens (Scope.distinct [[], e.2])) (d : String) :
    Fingerprint.FitsTokens (t.effectiveClearances n d) := by
  have hlineage : t.lineage n = [s, .root] := by
    rw [ScopeStack.lineage_child hs hparent hn, ScopeStack.lineage_root hroot rfl]
  unfold ScopeStack.effectiveClearances
  rw [hlineage]
  show Fingerprint.FitsTokens (Scope.distinct [[], s.clearances.tokens d])
  rw [htable]
  rcases TokenTable.tokens_cases [e] d with h | ⟨e', he', h⟩
  · rw [h]
    exact hempty
  · rw [h, List.mem_singleton.mp he']
    exact he

theorem heard_alone_twoRegions :
    twoLines.heard 0 ⟨[], []⟩ twoRegions =
      twoLines.heard 0 ⟨[], []⟩ (twoRegions.filter Turn.isOwn) := by
  refine heard_alone orders .standard [(0, .branch false)] 0 ⟨[], []⟩ twoRegions ?_ ?_ ?_ ?_ ?_
  · decide
  · decide
  · decide
  · show twoLines.Undisturbed 0 (twoLines.reach 0 ⟨[], []⟩) ⟨[], []⟩ twoRegions
    rw [reach_twoLines]
    refine ⟨by decide, trivial, by decide, ?_, nofun, nofun, by decide, trivial, nofun, by decide, ?_,
      trivial⟩
    · show _ ∉ _
      decide
    · show _ ∉ _
      decide
  · have hviews : ∀ view ∈ (separate orders .standard).observed
        ([(0, .branch false)] ++ twoLines.spelled 0 ⟨[], []⟩ twoRegions),
        view.id = .stack ∧ ∀ d, Fingerprint.FitsTokens (view.tokens d) := by
      intro view hview
      rcases List.mem_cons.mp hview with rfl | hview
      · exact ⟨rfl, fits_entry rfl rfl (by decide) rfl rfl (by decide) (by decide)⟩
      · rw [List.mem_singleton.mp hview]
        exact ⟨rfl, fits_entry rfl rfl (by decide) rfl rfl (by decide) (by decide)⟩
    refine ⟨fun view hview => (hviews view hview).2, fun view hview _ _ u hu => ?_⟩
    cases (hviews view hview).1.symm.trans hu

end Access

end RowAccess
