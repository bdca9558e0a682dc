import ChangeImpact.Proofs.Queue

/-!
# The order of the paths

Paths are ordered by their number of steps, and paths of as many steps by their hops, the first different one being
decisive.  An enumeration lists its paths in this order, whatever the caps cut off: `isCanonical_ofGraph`.

* (one level) the trails of a level have as many hops each, so what a trail goes on to comes before what a later trail
  goes on to: `WellFormed.inOrder_waiting`.  The cap on paths only leaves trails out;
* (all levels) trails of later levels have more hops than those kept before: `IsPartLevel.pairwise_kept`.
-/

namespace ChangeImpact

/-! ### The order of hops, trails and paths -/

/-- Not the same, and in order by the object, then by the usage. -/
def Hop.Before (a b : Hop) : Prop :=
  a.le b ∧ a ≠ b

/-- By the number of hops, then hop by hop. -/
def Trail.Precedes (s t : Trail) : Prop :=
  s.hops.length < t.hops.length ∨ s.hops.length = t.hops.length ∧ List.Lex Hop.Before s.hops t.hops

def Path.Precedes (p q : Path) : Prop :=
  p.trail.Precedes q.trail

theorem Hop.Before.irrefl (a : Hop) : ¬ a.Before a := by
  intro h
  exact h.2 rfl

/-- No trail precedes itself. -/
theorem Trail.Precedes.irrefl (t : Trail) : ¬ t.Precedes t := by
  intro h
  rcases h with h | ⟨_, h⟩
  · exact Nat.lt_irrefl _ h
  · exact List.lex_irrefl Hop.Before.irrefl _ h

/-- In lists of one length the first difference stays decisive, whatever comes behind. -/
theorem lex_append_of_length_eq {α : Type} {r : α → α → Prop} {as bs : List α} (h : List.Lex r as bs)
    (hlength : as.length = bs.length) (cs ds : List α) : List.Lex r (as ++ cs) (bs ++ ds) := by
  induction h with
  | nil => simp at hlength
  | rel hab => exact .rel hab
  | cons _ ih =>
    simp only [List.length_cons, Nat.add_right_cancel_iff] at hlength
    exact .cons (ih hlength)

namespace Graph

variable {g : Graph} {caps : Caps} {depth n : Nat} {t : Trail} {level : List Trail}

/-! ### One level -/

/-- The trails of a level come in the order of their hops. -/
def InOrder (level : List Trail) : Prop :=
  level.Pairwise fun s t => List.Lex Hop.Before s.hops t.hops

/-- A trail goes on in the order of the hops. -/
theorem WellFormed.inOrder_next (hg : g.WellFormed) (t : Trail) : InOrder (g.next depth t) := by
  unfold next
  split
  · exact .nil
  · have hbefore : (g.continuations t).Pairwise Hop.Before :=
      (hg.sorted_continuations t).and (hg.nodup_continuations t)
    refine List.pairwise_map.2 (hbefore.imp ?_)
    intro a b hab
    rw [Trail.hops_extend, Trail.hops_extend]
    exact List.Lex.append_left _ (.rel hab) t.hops

/-- Behind trails of as many hops each, all goes on in their order. -/
theorem WellFormed.inOrder_waiting (hg : g.WellFormed) (hl : g.IsPartLevel depth n level) (ho : InOrder level) :
    InOrder (g.freeLevel depth level).waiting := by
  refine List.pairwise_flatMap.2 ⟨fun t _ => hg.inOrder_next t, ?_⟩
  refine ho.imp_of_mem ?_
  intro s t hs ht hst s' hs' t' ht'
  have hlength : s.hops.length = t.hops.length := (hl s hs).2.1.trans (hl t ht).2.1.symm
  obtain ⟨_, a, _, rfl⟩ := mem_next.1 hs'
  obtain ⟨_, b, _, rfl⟩ := mem_next.1 ht'
  rw [Trail.hops_extend, Trail.hops_extend]
  exact lex_append_of_length_eq hst hlength [a] [b]

/-! ### All levels -/

/-- What is kept comes in order; by induction on the levels, since what waits behind a level is in order, too, and has
one hop more. -/
theorem IsPartLevel.pairwise_kept (hg : g.WellFormed) (hl : g.IsPartLevel caps.depth n level) (ho : InOrder level)
    (levels kept : Nat) : (g.walk caps levels kept level).kept.Pairwise Trail.Precedes := by
  induction levels generalizing n kept level with
  | zero => exact .nil
  | succ levels ih =>
    have hfirst : (g.walkLevel caps kept level.length level).kept.Pairwise Trail.Precedes := by
      refine (ho.sublist (g.sublist_kept_walkLevel caps kept level.length level)).imp_of_mem ?_
      intro s t hs ht hst
      have hs := (hl s (mem_kept_walkLevel hs)).2.1
      have ht := (hl t (mem_kept_walkLevel ht)).2.1
      exact .inr ⟨hs.trans ht.symm, hst⟩
    have hwaiting : InOrder (g.walkLevel caps kept level.length level).waiting :=
      (hg.inOrder_waiting hl ho).sublist (g.sublist_waiting_walkLevel caps kept level.length level)
    have hnext := hl.waiting kept level.length
    rw [walk]
    dsimp only
    split
    · exact hfirst
    · refine List.pairwise_append.2 ⟨hfirst, ih hnext hwaiting _, ?_⟩
      intro s hs t ht
      have hs := (hl s (mem_kept_walkLevel hs)).2.1
      have ht := (hnext.mem_kept ht).2.1
      exact .inl (by omega)

/-- All that a walk from the root keeps comes in order. -/
theorem pairwise_kept_cappedWalk (hg : g.WellFormed) (caps : Caps) :
    (g.cappedWalk caps).kept.Pairwise Trail.Precedes := by
  have hstart : InOrder [⟨g.root.entity, []⟩] := List.pairwise_singleton _ _
  exact (g.isLevel_start caps.depth).isPartLevel.pairwise_kept hg hstart _ _

end Graph

/-! ### Enumerations -/

namespace Enumeration

/-- The paths come in order, so none comes twice, and the last one is the longest. -/
structure IsCanonical (e : Enumeration) : Prop where
  sorted : e.paths.Pairwise Path.Precedes
  nodup_trails : (e.paths.map Path.trail).Nodup
  depthReached_eq : e.depthReached = (e.paths.getLast?.map Path.depth).getD 0

/-- No path is longer than a later one. -/
theorem depth_le_of_precedes {p q : Path} (h : p.Precedes q) : p.depth ≤ q.depth := by
  rw [← p.length_hops_trail, ← q.length_hops_trail]
  rcases h with h | ⟨h, _⟩
  · exact Nat.le_of_lt h
  · exact Nat.le_of_eq h

theorem depthReached_of_sorted {e : Enumeration} (h : e.paths.Pairwise Path.Precedes) :
    e.depthReached = (e.paths.getLast?.map Path.depth).getD 0 := by
  apply e.isGreatest_depthReached.unique
  rcases List.eq_nil_or_concat' e.paths with hnil | ⟨before, last, hpaths⟩
  · simp [hnil, IsGreatest]
  · rw [hpaths] at h ⊢
    have hlast : ∀ p ∈ before, p.depth ≤ last.depth := by
      intro p hp
      exact depth_le_of_precedes ((List.pairwise_append.1 h).2.2 p hp last List.mem_cons_self)
    constructor
    · simp
    · intro n hn
      simp only [List.map_append, List.mem_cons, List.mem_append, List.mem_map, List.not_mem_nil, or_false,
        Set.mem_ofPred_eq] at hn
      rw [List.getLast?_concat, Option.map_some, Option.getD_some]
      rcases hn with rfl | ⟨p, hp, rfl⟩ | ⟨p, rfl, rfl⟩
      · exact Nat.zero_le _
      · exact hlast p hp
      · exact Nat.le_refl _

/-- Whatever the caps, and whether they cut something off or not: the paths come by their number of steps and then hop
by hop by object and usage. -/
theorem isCanonical_ofGraph (root : NamedEntity) (rootLevel : Option Int) (default : Nat) (rows : List Dependent)
    (caps : Caps) : (ofGraph (Graph.ofDependents root rootLevel default rows) caps).IsCanonical := by
  have hg := Graph.ofDependents_wellFormed root rootLevel default rows
  generalize Graph.ofDependents root rootLevel default rows = g at hg
  have hkept : (g.cappedWalk caps.atLeastOne).kept.Pairwise Trail.Precedes := Graph.pairwise_kept_cappedWalk hg _
  have hpos : 0 < caps.atLeastOne.paths := Nat.le_max_left 1 caps.paths
  have htrails : (ofGraph g caps).paths.map Path.trail =
      (g.cappedWalk caps.atLeastOne).kept.filter fun t => !t.hops.isEmpty :=
    Graph.map_trail_filterMap_path? hg fun t ht => (Graph.mem_kept_cappedWalk hg hpos ht).1
  have hsorted : ((ofGraph g caps).paths.map Path.trail).Pairwise Trail.Precedes := htrails ▸ hkept.filter _
  have hpaths : (ofGraph g caps).paths.Pairwise Path.Precedes := by
    rw [List.pairwise_map] at hsorted
    exact hsorted
  refine ⟨hpaths, hsorted.imp ?_, depthReached_of_sorted hpaths⟩
  rintro s _ hs rfl
  exact Trail.Precedes.irrefl s hs

end Enumeration

end ChangeImpact
