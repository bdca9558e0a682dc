import ChangeImpact.Enumeration
import ChangeImpact.Proofs.Graph
import Mathlib.Data.List.Induction
import Mathlib.Data.List.Perm.Subperm

/-!
# Simple trails

A trail is simple if it begins at the root, follows links of the graph and meets no object twice.

* (one hop) a trail is taken further to a simple one exactly by its continuations: `isSimple_extend`;
* (prefixes) what a simple trail begins with is simple: `IsSimple.of_prefix`;
* (length) there are fewer hops than objects: `IsSimple.length_lt`;
* (maximal trails) under a cap on the depth every simple trail within it begins one that cannot be taken further:
  `exists_isMaximal`.
-/

namespace ChangeImpact

/-! ### Trails hop by hop -/

namespace Trail

@[simp] theorem root_extend (t : Trail) (h : Hop) : (t.extend h).root = t.root := rfl

@[simp] theorem hops_extend (t : Trail) (h : Hop) : (t.extend h).hops = t.hops ++ [h] := rfl

@[simp] theorem tail_extend (t : Trail) (h : Hop) : (t.extend h).tail = h.entity := by
  simp [tail]

@[simp] theorem tail_start (r : Entity) : (⟨r, []⟩ : Trail).tail = r := rfl

@[simp] theorem entities_extend (t : Trail) (h : Hop) : (t.extend h).entities = t.entities ++ [h.entity] := by
  simp [entities]

theorem tail_cons (r : Entity) (h : Hop) (hs : List Hop) :
    (⟨r, h :: hs⟩ : Trail).tail = (⟨h.entity, hs⟩ : Trail).tail := by
  cases hs with
  | nil => rfl
  | cons h' hs => simp only [tail, List.getLast?_cons, Option.map_some, Option.getD_some]

theorem extend_inj {t t' : Trail} {h h' : Hop} (e : t.extend h = t'.extend h') : t = t' ∧ h = h' := by
  obtain ⟨r, hs⟩ := t
  obtain ⟨r', hs'⟩ := t'
  simp only [extend, mk.injEq, List.append_singleton_inj] at e
  obtain ⟨rfl, rfl, rfl⟩ := e
  exact ⟨rfl, rfl⟩

/-- Every trail is made by taking a root further hop by hop. -/
@[elab_as_elim]
theorem induction_extend {motive : Trail → Prop} (start : ∀ r, motive ⟨r, []⟩)
    (extend : ∀ t h, motive t → motive (t.extend h)) (t : Trail) : motive t := by
  obtain ⟨r, hs⟩ := t
  induction hs using List.reverseRecOn with
  | nil => exact start r
  | append_singleton hs h ih => exact extend ⟨r, hs⟩ h ih

theorem length_entities (t : Trail) : t.entities.length = t.hops.length + 1 := by
  simp [entities]

end Trail

namespace Graph

variable {g : Graph} {t : Trail} {h : Hop} {depth : Nat}

/-- Each hop goes along a link from the object before it. -/
def Leads (g : Graph) : Entity → List Hop → Prop
  | _, [] => True
  | e, h :: hs => h ∈ g.affected e ∧ g.Leads h.entity hs

theorem leads_append_singleton {r : Entity} {hs : List Hop} :
    g.Leads r (hs ++ [h]) ↔ g.Leads r hs ∧ h ∈ g.affected (⟨r, hs⟩ : Trail).tail := by
  induction hs generalizing r with
  | nil => simp [Leads]
  | cons h' hs ih =>
    rw [List.cons_append, Leads, Leads, ih, Trail.tail_cons]
    exact and_assoc.symm

structure IsSimple (g : Graph) (t : Trail) : Prop where
  root_eq : t.root = g.root.entity
  leads : g.Leads t.root t.hops
  nodup : t.entities.Nodup

theorem mem_continuations : h ∈ g.continuations t ↔ h ∈ g.affected t.tail ∧ h.entity ∉ t.entities := by
  simp [continuations]

theorem WellFormed.nodup_continuations (hg : g.WellFormed) (t : Trail) : (g.continuations t).Nodup :=
  (hg.nodup_affected _).filter _

theorem WellFormed.sorted_continuations (hg : g.WellFormed) (t : Trail) : (g.continuations t).Pairwise (·.le ·) :=
  (hg.sorted_affected _).filter _

/-- The root on its own. -/
theorem isSimple_start (g : Graph) : g.IsSimple ⟨g.root.entity, []⟩ where
  root_eq := rfl
  leads := trivial
  nodup := List.nodup_singleton _

theorem isSimple_nil {r : Entity} : g.IsSimple ⟨r, []⟩ ↔ r = g.root.entity :=
  ⟨fun h => h.root_eq, fun h => h ▸ g.isSimple_start⟩

theorem isSimple_extend : g.IsSimple (t.extend h) ↔ g.IsSimple t ∧ h ∈ g.continuations t := by
  rw [mem_continuations]
  constructor
  · intro ⟨hr, hl, hn⟩
    rw [Trail.entities_extend, List.nodup_append] at hn
    have hl := leads_append_singleton.1 hl
    exact ⟨⟨hr, hl.1, hn.1⟩, hl.2, fun hm => hn.2.2 _ hm _ List.mem_cons_self rfl⟩
  · intro ⟨⟨hr, hl, hn⟩, ha, hm⟩
    refine ⟨hr, leads_append_singleton.2 ⟨hl, ha⟩, ?_⟩
    rw [Trail.entities_extend, List.nodup_append]
    refine ⟨hn, List.nodup_singleton _, ?_⟩
    intro a ha b hb hab
    rw [List.mem_singleton] at hb
    exact hm (hb ▸ hab ▸ ha)

theorem IsSimple.of_prefix {hs : List Hop} (ht : g.IsSimple t) (hp : hs <+: t.hops) :
    g.IsSimple ⟨t.root, hs⟩ := by
  induction t using Trail.induction_extend with
  | start r =>
    rw [List.prefix_nil.1 hp]
    exact ht
  | extend t h ih =>
    rw [Trail.hops_extend, List.prefix_concat_iff] at hp
    rcases hp with rfl | hp
    · exact ht
    · exact ih (isSimple_extend.1 ht).1 hp

/-- The trail up to a hop is simple, and the hop takes it further. -/
theorem IsSimple.of_append {r : Entity} {hs hs' : List Hop} (ht : g.IsSimple ⟨r, hs ++ h :: hs'⟩) :
    g.IsSimple ⟨r, hs⟩ ∧ h ∈ g.continuations ⟨r, hs⟩ :=
  isSimple_extend.1 (ht.of_prefix ⟨hs', by simp⟩)

/-- A trail that meets an object has a part that ends there. -/
theorem IsSimple.exists_tail_eq {e : Entity} (ht : g.IsSimple t) (he : e ∈ t.entities) :
    ∃ s, g.IsSimple s ∧ s.tail = e ∧ s.hops <+: t.hops := by
  induction t using Trail.induction_extend with
  | start r =>
    refine ⟨_, ht, ?_, List.prefix_refl _⟩
    rw [Trail.entities, List.map_nil, List.mem_singleton] at he
    exact he.symm
  | extend t h ih =>
    rw [Trail.entities_extend, List.mem_append, List.mem_singleton] at he
    rcases he with he | rfl
    · obtain ⟨s, hs, hse, hp⟩ := ih (isSimple_extend.1 ht).1 he
      exact ⟨s, hs, hse, hp.trans (List.prefix_append _ _)⟩
    · exact ⟨_, ht, Trail.tail_extend t h, List.prefix_refl _⟩

theorem IsSimple.tail_ne_root (ht : g.IsSimple t) (hne : t.hops ≠ []) : t.tail ≠ g.root.entity := by
  induction t using Trail.induction_extend with
  | start r => exact absurd rfl hne
  | extend t h _ =>
    obtain ⟨ht, hc⟩ := isSimple_extend.1 ht
    intro he
    rw [Trail.tail_extend, ← ht.root_eq] at he
    exact (mem_continuations.1 hc).2 (he ▸ List.mem_cons_self)

theorem IsSimple.entities_subset (hg : g.WellFormed) (ht : g.IsSimple t) : t.entities ⊆ g.entities := by
  induction t using Trail.induction_extend with
  | start r =>
    rw [isSimple_nil.1 ht]
    exact List.cons_subset.2 ⟨g.root_mem_entities, List.nil_subset _⟩
  | extend t h ih =>
    have hs := isSimple_extend.1 ht
    rw [Trail.entities_extend]
    refine List.append_subset.2 ⟨ih hs.1, List.cons_subset.2 ⟨?_, List.nil_subset _⟩⟩
    exact hg.mem_entities_of_mem_affected (mem_continuations.1 hs.2).1

theorem IsSimple.length_lt (hg : g.WellFormed) (ht : g.IsSimple t) : t.hops.length < g.nodes.length := by
  have h := (ht.nodup.subperm (ht.entities_subset hg)).length_le
  rw [t.length_entities, entities, List.length_map] at h
  omega

/-! ### Maximal trails -/

/-- A simple trail of at least one hop and at most `depth` that has `depth` hops or cannot go on. -/
structure IsMaximal (g : Graph) (depth : Nat) (t : Trail) : Prop where
  simple : g.IsSimple t
  ne_nil : t.hops ≠ []
  length_le : t.hops.length ≤ depth
  ends : t.hops.length = depth ∨ ∀ h ∈ g.affected t.tail, h.entity ∈ t.entities

theorem continuations_eq_nil : g.continuations t = [] ↔ ∀ h ∈ g.affected t.tail, h.entity ∈ t.entities := by
  rw [List.eq_nil_iff_forall_not_mem]
  simp only [mem_continuations, not_and, Classical.not_not]

/-- A simple trail within the depth begins one that has as many hops as allowed or cannot go on. -/
theorem IsSimple.exists_ends (ht : g.IsSimple t) (hd : t.hops.length ≤ depth) :
    ∃ t', g.IsSimple t' ∧ t.hops <+: t'.hops ∧ t'.hops.length ≤ depth ∧
      (t'.hops.length = depth ∨ g.continuations t' = []) := by
  obtain ⟨k, hk⟩ : ∃ k, depth = t.hops.length + k := ⟨depth - t.hops.length, by omega⟩
  induction k generalizing t with
  | zero => exact ⟨t, ht, List.prefix_refl _, hd, .inl (by omega)⟩
  | succ k ih =>
    rcases hc : g.continuations t with _ | ⟨h, hs⟩
    · exact ⟨t, ht, List.prefix_refl _, hd, .inr hc⟩
    · have hx : g.IsSimple (t.extend h) := isSimple_extend.2 ⟨ht, hc ▸ List.mem_cons_self⟩
      have hl : (t.extend h).hops.length = t.hops.length + 1 := by simp
      obtain ⟨t', ht', hp, hrest⟩ := ih hx (by omega) (by omega)
      exact ⟨t', ht', (List.prefix_append _ _).trans hp, hrest⟩

theorem IsSimple.exists_isMaximal (ht : g.IsSimple t) (hne : t.hops ≠ []) (hd : t.hops.length ≤ depth) :
    ∃ t', g.IsMaximal depth t' ∧ t.hops <+: t'.hops := by
  obtain ⟨t', ht', hp, hd', he⟩ := ht.exists_ends hd
  refine ⟨t', ⟨ht', ?_, hd', he.imp_right continuations_eq_nil.1⟩, hp⟩
  intro hn
  exact hne (List.prefix_nil.1 (hn ▸ hp))

end Graph

end ChangeImpact
