import ChangeImpact.Proofs.Order
import Mathlib.Data.List.Nodup

/-!
# The graph of a list of dependents

A graph holds what the rows say and nothing else: `mem_affected_ofDependents` gives its steps and
`mem_entities_ofDependents` its objects.  What later proofs need of its layout is `WellFormed`: no object and no link
comes twice, the links of an object are sorted, and no link leaves the graph.
-/

namespace ChangeImpact.Graph

variable {g : Graph} {root : NamedEntity} {rootLevel : Option Int} {default : Nat} {rows : List Dependent}

/-- The objects of the graph, the root first. -/
def entities (g : Graph) : List Entity :=
  g.nodes.map Node.entity

structure WellFormed (g : Graph) : Prop where
  nodup_entities : g.entities.Nodup
  nodup_links : g.links.Nodup
  sorted_links : g.links.Pairwise fun a b => a.hop.le b.hop
  closed : ∀ l ∈ g.links, l.hop.entity ∈ g.entities

/-! ### Links -/

theorem mem_affected {e : Entity} {h : Hop} : h ∈ g.affected e ↔ ⟨e, h⟩ ∈ g.links := by
  simp only [affected, List.mem_map, List.mem_filter, decide_eq_true_eq]
  constructor
  · rintro ⟨⟨_, _⟩, ⟨hl, rfl⟩, rfl⟩
    exact hl
  · intro hl
    exact ⟨⟨e, h⟩, ⟨hl, rfl⟩, rfl⟩

theorem WellFormed.nodup_affected (hg : g.WellFormed) (e : Entity) : (g.affected e).Nodup := by
  refine List.Nodup.map_on ?_ (hg.nodup_links.filter _)
  rintro ⟨a, h⟩ ha ⟨b, _⟩ hb rfl
  have ha : a = e := of_decide_eq_true (List.mem_filter.1 ha).2
  have hb : b = e := of_decide_eq_true (List.mem_filter.1 hb).2
  rw [ha, hb]

theorem WellFormed.sorted_affected (hg : g.WellFormed) (e : Entity) : (g.affected e).Pairwise (·.le ·) :=
  List.pairwise_map.2 (hg.sorted_links.filter _)

theorem WellFormed.mem_entities_of_mem_affected (hg : g.WellFormed) {e : Entity} {h : Hop}
    (hh : h ∈ g.affected e) : h.entity ∈ g.entities :=
  hg.closed _ (mem_affected.1 hh)

theorem mem_links_ofDependents {l : Link} :
    l ∈ (ofDependents root rootLevel default rows).links ↔ ∃ row ∈ rows, linkOf row = l := by
  show l ∈ sortBy _ _ ↔ _
  rw [(perm_sortBy _ _).mem_iff, mem_distinctBy_id, List.mem_map]

/-- An object is affected by another if some row says that it uses it. -/
theorem mem_affected_ofDependents {e : Entity} {h : Hop} :
    h ∈ (ofDependents root rootLevel default rows).affected e ↔
      ∃ row ∈ rows, row.target.entity = e ∧ row.source.entity = h.entity ∧ row.usage = h.usage := by
  rw [mem_affected, mem_links_ofDependents]
  obtain ⟨u, s⟩ := h
  simp only [linkOf, Link.mk.injEq, Hop.mk.injEq]
  exact exists_congr fun row => and_congr_right fun _ => and_congr_right fun _ => and_comm

/-! ### Objects -/

theorem root_mem_entities (g : Graph) : g.root.entity ∈ g.entities :=
  List.mem_cons_self

theorem entities_ofDependents :
    (ofDependents root rootLevel default rows).entities =
      root.entity :: (distinctBy NamedEntity.entity [root.entity] (mentions rows)).map NamedEntity.entity := by
  simp only [entities, nodes, ofDependents, List.map_cons, List.map_map]
  rfl

theorem mem_entities_ofDependents {e : Entity} :
    e ∈ (ofDependents root rootLevel default rows).entities ↔
      e = root.entity ∨ ∃ row ∈ rows, row.target.entity = e ∨ row.source.entity = e := by
  rw [entities_ofDependents, List.mem_cons, mem_map_distinctBy, List.mem_singleton]
  have hm : e ∈ (mentions rows).map NamedEntity.entity ↔
      ∃ row ∈ rows, row.target.entity = e ∨ row.source.entity = e := by
    simp only [mentions, List.map_flatMap, List.mem_flatMap, List.map_cons, List.map_nil, List.mem_cons,
      List.not_mem_nil, or_false, eq_comm (a := e)]
  rw [hm]
  by_cases he : e = root.entity <;> simp [he]

theorem ofDependents_wellFormed (root : NamedEntity) (rootLevel : Option Int) (default : Nat)
    (rows : List Dependent) : (ofDependents root rootLevel default rows).WellFormed where
  nodup_entities := by
    rw [entities_ofDependents]
    refine List.nodup_cons.2 ⟨fun h => ?_, nodup_map_distinctBy _ _ _⟩
    exact (mem_map_distinctBy.1 h).2 List.mem_cons_self
  nodup_links := (perm_sortBy _ _).nodup_iff.2 (nodup_distinctBy_id _)
  sorted_links := by
    show (sortBy (fun a b : Link => a.hop.le b.hop) _).Pairwise fun a b => a.hop.le b.hop
    apply pairwise_sortBy
    · exact fun _ _ _ => Hop.le_trans
    · exact fun a b => Hop.le_total a.hop b.hop
  closed := by
    intro l hl
    obtain ⟨row, hrow, rfl⟩ := mem_links_ofDependents.1 hl
    exact mem_entities_ofDependents.2 (.inr ⟨row, hrow, .inr rfl⟩)

theorem node?_root (g : Graph) : g.node? g.root.entity = some g.root :=
  List.find?_cons_of_pos (decide_eq_true rfl)

/-- Every object of the graph has a node. -/
theorem exists_node?_eq_some {e : Entity} (h : e ∈ g.entities) :
    ∃ n, g.node? e = some n ∧ n ∈ g.nodes ∧ n.entity = e := by
  obtain ⟨n, hn, rfl⟩ := List.mem_map.1 h
  have hs : (g.node? n.entity).isSome := List.find?_isSome.2 ⟨n, hn, by simp⟩
  obtain ⟨m, hm⟩ := Option.isSome_iff_exists.1 hs
  exact ⟨m, hm, List.mem_of_find?_eq_some hm, by simpa using List.find?_some hm⟩

/-- The criticality of a node is the level of its object. -/
theorem criticality_of_mem_nodes {n : Node} (hn : n ∈ (ofDependents root rootLevel default rows).nodes) :
    n.criticality = level root.entity rootLevel rows default n.entity := by
  rcases List.mem_cons.1 hn with rfl | hn
  · rfl
  · obtain ⟨object, _, rfl⟩ := List.mem_map.1 hn
    rfl

end ChangeImpact.Graph
