import ChangeImpact.Analysis
import ChangeImpact.Proofs.Enumeration

/-!
# Graphs that agree

An enumeration sees of a graph only the nodes and the continuations of its simple trails within the depth.  Two graphs
that agree on these give the same enumeration, whatever the cap on paths cuts off: `Agree.ofGraph_eq`.  The walks run
for as many levels as each graph has objects, which need not be the same number; more levels than there are objects
make no difference (`walk_add`).
-/

namespace ChangeImpact

namespace Graph

variable {g g' : Graph} {caps : Caps} {depth n : Nat} {t : Trail} {ts level : List Trail}

/-- The graphs have the same root, and the same nodes and continuations on simple trails within the depth. -/
structure Agree (g g' : Graph) (depth : Nat) : Prop where
  root_eq : g.root = g'.root
  continuations_eq : ∀ t, g.IsSimple t → t.hops.length ≤ depth → g.continuations t = g'.continuations t
  node?_eq : ∀ t, g.IsSimple t → t.hops.length ≤ depth → ∀ e ∈ t.entities, g.node? e = g'.node? e

/-! ### Where the trails of a walk come from -/

/-- A trail stops the walk, is kept, or some of what it is taken further to is queued. -/
theorem walkLevel_cons_cases (g : Graph) (caps : Caps) (kept waiting : Nat) (t : Trail) (ts : List Trail) :
    g.walkLevel caps kept waiting (t :: ts) = .stop (.paths caps.paths) ∨
    (∃ limits, g.walkLevel caps kept waiting (t :: ts) =
      .keep t limits (g.walkLevel caps (kept + 1) (waiting - 1) ts)) ∨
    ∃ queued limits, queued <+: g.next caps.depth t ∧ g.walkLevel caps kept waiting (t :: ts) =
      .queue queued limits (g.walkLevel caps kept (waiting - 1 + queued.length) ts) := by
  rw [walkLevel]
  dsimp only
  split
  · exact .inl rfl
  · split
    · exact .inr (.inl ⟨_, rfl⟩)
    · rename_i hc
      split
      · exact .inr (.inl ⟨_, rfl⟩)
      · rename_i hd
        split
        · exact .inr (.inl ⟨_, rfl⟩)
        · refine .inr (.inr ⟨_, _, ?_, rfl⟩)
          have he : ¬ g.ends caps.depth t := fun he => (ends_iff.1 he).elim (by simpa using hc) hd
          rw [next, if_neg he, List.map_take]
          exact List.take_prefix _ _

theorem mem_kept_walkLevel {kept waiting : Nat} (ht : t ∈ (g.walkLevel caps kept waiting ts).kept) : t ∈ ts := by
  induction ts generalizing kept waiting with
  | nil => exact absurd ht List.not_mem_nil
  | cons s ts ih =>
    rcases g.walkLevel_cons_cases caps kept waiting s ts with h | ⟨_, h⟩ | ⟨_, _, _, h⟩ <;> rw [h] at ht
    · exact absurd ht List.not_mem_nil
    · rcases List.mem_cons.1 ht with rfl | ht
      · exact List.mem_cons_self
      · exact List.mem_cons_of_mem _ (ih ht)
    · exact List.mem_cons_of_mem _ (ih ht)

theorem mem_waiting_walkLevel {kept waiting : Nat} (ht : t ∈ (g.walkLevel caps kept waiting ts).waiting) :
    ∃ s ∈ ts, t ∈ g.next caps.depth s := by
  induction ts generalizing kept waiting with
  | nil => exact absurd ht List.not_mem_nil
  | cons s ts ih =>
    rcases g.walkLevel_cons_cases caps kept waiting s ts with h | ⟨_, h⟩ | ⟨_, _, hq, h⟩ <;> rw [h] at ht
    · exact absurd ht List.not_mem_nil
    · obtain ⟨r, hr, hn⟩ := ih ht
      exact ⟨r, List.mem_cons_of_mem _ hr, hn⟩
    · rcases List.mem_append.1 ht with ht | ht
      · exact ⟨s, List.mem_cons_self, hq.subset ht⟩
      · obtain ⟨r, hr, hn⟩ := ih ht
        exact ⟨r, List.mem_cons_of_mem _ hr, hn⟩

theorem IsPartLevel.waiting (hl : g.IsPartLevel caps.depth n level) (kept waiting : Nat) :
    g.IsPartLevel caps.depth (n + 1) (g.walkLevel caps kept waiting level).waiting := by
  intro t' ht'
  obtain ⟨t, ht, hn⟩ := mem_waiting_walkLevel ht'
  obtain ⟨hs, hlen, _⟩ := hl t ht
  obtain ⟨hd, h, hh, rfl⟩ := mem_next.1 hn
  exact ⟨isSimple_extend.2 ⟨hs, hh⟩, by simp [hlen], by omega⟩

theorem IsPartLevel.mem_kept {levels kept : Nat} (hl : g.IsPartLevel caps.depth n level)
    (ht : t ∈ (g.walk caps levels kept level).kept) :
    g.IsSimple t ∧ n ≤ t.hops.length ∧ t.hops.length ≤ caps.depth := by
  induction levels generalizing n kept level with
  | zero => exact absurd ht List.not_mem_nil
  | succ levels ih =>
    have hfirst (ht : t ∈ (g.walkLevel caps kept level.length level).kept) :
        g.IsSimple t ∧ n ≤ t.hops.length ∧ t.hops.length ≤ caps.depth := by
      obtain ⟨hs, rfl, hd⟩ := hl t (mem_kept_walkLevel ht)
      exact ⟨hs, Nat.le_refl _, hd⟩
    rw [walk] at ht
    dsimp only at ht
    split at ht
    · exact hfirst ht
    · rcases List.mem_append.1 ht with ht | ht
      · exact hfirst ht
      · obtain ⟨hs, hn, hd⟩ := ih (hl.waiting kept level.length) ht
        exact ⟨hs, by omega, hd⟩

/-! ### The number of levels -/

@[simp] theorem walk_nil (g : Graph) (caps : Caps) (levels kept : Nat) : g.walk caps levels kept [] = .finish := by
  induction levels generalizing kept with
  | zero => rfl
  | succ levels ih => simp [walk, walkLevel, ih, Walk.finish]

/-- Levels after the last that can hold a simple trail make no difference. -/
theorem walk_add {levels kept : Nat} (hg : g.WellFormed) (hl : g.IsPartLevel caps.depth n level)
    (hn : g.nodes.length ≤ n + levels) (more : Nat) :
    g.walk caps (levels + more) kept level = g.walk caps levels kept level := by
  induction levels generalizing n kept level with
  | zero =>
    rw [hl.eq_nil hg hn, walk_nil, walk_nil]
  | succ levels ih =>
    rw [Nat.succ_add, walk, walk]
    dsimp only
    rw [ih (hl.waiting kept level.length) (by omega)]

/-! ### Walks through graphs that agree -/

theorem walkLevel_congr {kept waiting : Nat} (h : ∀ t ∈ ts, g.continuations t = g'.continuations t) :
    g.walkLevel caps kept waiting ts = g'.walkLevel caps kept waiting ts := by
  induction ts generalizing kept waiting with
  | nil => rfl
  | cons t ts ih =>
    have ih {kept waiting : Nat} := @ih kept waiting fun t ht => h t (List.mem_cons_of_mem _ ht)
    simp only [walkLevel, h t List.mem_cons_self, ih]

theorem Agree.walk_eq {levels kept : Nat} (h : g.Agree g' caps.depth) (hl : g.IsPartLevel caps.depth n level) :
    g.walk caps levels kept level = g'.walk caps levels kept level := by
  induction levels generalizing n kept level with
  | zero => rfl
  | succ levels ih =>
    have hfirst : g.walkLevel caps kept level.length level = g'.walkLevel caps kept level.length level := by
      refine walkLevel_congr fun t ht => ?_
      obtain ⟨hs, rfl, hd⟩ := hl t ht
      exact h.continuations_eq t hs hd
    rw [walk, walk, ← hfirst]
    dsimp only
    rw [ih (hl.waiting kept level.length)]

private theorem mapM_node?_congr {es : List Entity} (h : ∀ e ∈ es, g.node? e = g'.node? e) :
    es.mapM g.node? = es.mapM g'.node? := by
  induction es with
  | nil => rfl
  | cons e es ih =>
    rw [List.mapM_cons, List.mapM_cons, h e List.mem_cons_self, ih fun e he => h e (List.mem_cons_of_mem _ he)]

theorem path?_congr (h : ∀ e ∈ t.entities, g.node? e = g'.node? e) : g.path? t = g'.path? t := by
  rw [path?, path?, mapM_node?_congr h]

/-- Graphs that agree within the depth give the same enumeration. -/
theorem Agree.ofGraph_eq (hg : g.WellFormed) (hg' : g'.WellFormed) (h : g.Agree g' caps.atLeastOne.depth) :
    Enumeration.ofGraph g caps = Enumeration.ofGraph g' caps := by
  have hstart := (g.isLevel_start caps.atLeastOne.depth).isPartLevel
  have hstart' := (g'.isLevel_start caps.atLeastOne.depth).isPartLevel
  -- both graphs are walked through for as many levels as the two have objects together
  have hw : g.walk caps.atLeastOne g.nodes.length 0 [⟨g.root.entity, []⟩] =
      g'.walk caps.atLeastOne g'.nodes.length 0 [⟨g'.root.entity, []⟩] := by
    rw [← walk_add hg hstart (by omega) g'.nodes.length, ← walk_add hg' hstart' (by omega) g.nodes.length,
      h.walk_eq hstart, h.root_eq, Nat.add_comm]
  have hpaths : ∀ t ∈ (g.walk caps.atLeastOne g.nodes.length 0 [⟨g.root.entity, []⟩]).kept,
      g.path? t = g'.path? t := by
    intro t ht
    obtain ⟨hs, _, hd⟩ := hstart.mem_kept ht
    exact path?_congr (h.node?_eq t hs hd)
  simp only [Enumeration.ofGraph, Enumeration.mk.injEq]
  exact ⟨(List.filterMap_congr hpaths).trans (by rw [hw]), by rw [hw]⟩

end Graph

/-- An analysis depends on its rows only through the graph that they make. -/
theorem Analysis.ofDependents_congr {settings : Settings} {policy : ApprovalPolicy} {root : NamedEntity}
    {rootLevel : Option Int} {rows rows' : List Dependent} {change : Change}
    (h : (Graph.ofDependents root rootLevel settings.defaultCriticality rows).Agree
      (Graph.ofDependents root rootLevel settings.defaultCriticality rows') (max 1 settings.maxDepth)) :
    ofDependents settings policy root rootLevel rows change =
      ofDependents settings policy root rootLevel rows' change := by
  have he : Enumeration.ofGraph _ (caps settings) = Enumeration.ofGraph _ (caps settings) :=
    h.ofGraph_eq (Graph.ofDependents_wellFormed ..) (Graph.ofDependents_wellFormed ..)
  simp only [ofDependents, he]

end ChangeImpact
