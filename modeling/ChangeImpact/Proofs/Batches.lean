import ChangeImpact.Resolution
import Mathlib.Data.List.Perm.Basic

/-!
# Batches of references

What a reference resolves to does not depend on the batch it comes in (`Resolver.target?`), so a batch is resolved part
by part: the references without a target are those of the parts, and the edges are those of the parts, each of them once
(`Resolver.resolve_append`).  The three lists of a resolution are read off from the targets:

* an edge is that of some reference to its target (`mem_edges_resolve`);
* a reference is unresolved if it has no target (`mem_unresolved_resolve`);
* a target is an entry of the list that the kind of the reference calls for (`mem_entriesFor_of_target?`).
-/

namespace ChangeImpact

open Catalog (Entry)
open Resolution (NameIndex Filed Match)

namespace Resolution.NameIndex

variable {index : NameIndex} {name : String} {m : Match}

theorem found_mem_of_byKey? (h : index.byKey? name = some m) : m.found ∈ index := by
  obtain ⟨f, hf, rfl⟩ := Option.map_eq_some_iff.1 h
  exact List.mem_of_find?_eq_some hf

theorem found_mem_of_byName? (h : index.byName? name = some m) : m.found ∈ index := by
  have hcandidate : m.found ∈ index.candidates name := by
    unfold byName? at h
    split at h
    · cases h
    · rename_i found heq
      obtain rfl := Option.some.inj h
      simp [heq]
    · rename_i first others _ heq
      obtain rfl := Option.some.inj h
      rw [heq]
      show ((first :: others).find? Filed.inDefaultSchema).getD first ∈ first :: others
      cases hfind : (first :: others).find? Filed.inDefaultSchema with
      | none => exact List.mem_cons_self
      | some f => exact List.mem_of_find?_eq_some hfind
  exact List.mem_of_mem_filter hcandidate

theorem found_mem_of_lookup? (h : index.lookup? name = some m) : m.found ∈ index := by
  rw [lookup?, Option.orElse_eq_orElse, Option.orElse_eq_or, Option.orElse_eq_or, Option.or_eq_some_iff] at h
  rcases h with h | ⟨_, h⟩
  · exact found_mem_of_byKey? h
  · rcases Option.or_eq_some_iff.1 h with h | ⟨_, h⟩
    · split at h
      · cases h
      · exact found_mem_of_byName? h
    · exact found_mem_of_byKey? h

theorem entry_mem_of_mem_ofEntries {assumeDefault : Bool} {entries : List Entry} {f : Filed}
    (h : f ∈ ofEntries assumeDefault entries) : f.entry ∈ entries := by
  obtain ⟨e, he, rfl⟩ := List.mem_map.1 h
  exact (perm_sortBy _ _).mem_iff.1 he

end Resolution.NameIndex

namespace Resolver

variable {r : Resolver} {references : List Reference} {reference : Reference}

/-! ### One reference -/

/-- The entry that a reference resolves to. -/
def target? (r : Resolver) (reference : Reference) : Option Entry :=
  (r.lookup? reference).map (·.found.entry)

/-- The entries that a reference to a kind of objects may resolve to. -/
def entriesFor (tables routines : List Entry) (kind : ObjectKind) : List Entry :=
  if kind.isTableLike then tables else routines

theorem mem_of_mem_entriesFor {tables routines : List Entry} {kind : ObjectKind} {e : Entry}
    (h : e ∈ entriesFor tables routines kind) : e ∈ tables ++ routines := by
  unfold entriesFor at h
  split at h
  · exact List.mem_append_left _ h
  · exact List.mem_append_right _ h

theorem index_ofCatalog (project : Int) (tables routines : List Entry) (kind : ObjectKind) :
    (ofCatalog project tables routines).index kind =
      NameIndex.ofEntries (!kind.isTableLike) (entriesFor tables routines kind) := by
  unfold index entriesFor
  cases kind.isTableLike <;> rfl

theorem edge?_eq (r : Resolver) (reference : Reference) :
    r.edge? reference = (r.target? reference).map fun e => r.edge reference e.entity := by
  rw [edge?, target?, Option.map_map]
  rfl

theorem target?_eq_none : r.target? reference = none ↔ r.lookup? reference = none :=
  Option.map_eq_none_iff

theorem mem_entriesFor_of_target? {project : Int} {tables routines : List Entry} {e : Entry}
    (h : (ofCatalog project tables routines).target? reference = some e) :
    e ∈ entriesFor tables routines reference.targetKind := by
  obtain ⟨m, hm, rfl⟩ := Option.map_eq_some_iff.1 h
  have hmem := NameIndex.found_mem_of_lookup? hm
  rw [index_ofCatalog] at hmem
  exact NameIndex.entry_mem_of_mem_ofEntries hmem

/-! ### All references of a batch -/

/-- Edges of one resolver with the same key are the same. -/
theorem mem_edges_resolve {edge : Edge} :
    edge ∈ (r.resolve references).edges ↔
      ∃ reference ∈ references, ∃ e, r.target? reference = some e ∧ r.edge reference e.entity = edge := by
  have hfound {edge : Edge} : edge ∈ references.filterMap r.edge? ↔
      ∃ reference ∈ references, ∃ e, r.target? reference = some e ∧ r.edge reference e.entity = edge := by
    simp only [List.mem_filterMap, edge?_eq, Option.map_eq_some_iff]
  rw [← hfound]
  refine ⟨mem_of_mem_distinctBy, fun hedge => ?_⟩
  have hkey : edge.key ∈ (distinctBy Edge.key [] (references.filterMap r.edge?)).map Edge.key :=
    mem_map_distinctBy.2 ⟨List.mem_map_of_mem hedge, List.not_mem_nil⟩
  obtain ⟨other, hother, heq⟩ := List.mem_map.1 hkey
  obtain ⟨_, _, e, _, rfl⟩ := hfound.1 hedge
  obtain ⟨_, _, e', _, rfl⟩ := hfound.1 (mem_of_mem_distinctBy hother)
  have hsame := heq
  simp only [Edge.key, edge, Prod.mk.injEq] at hsame
  obtain ⟨hsource, htarget, husage⟩ := hsame
  simp only [edge, hsource, htarget, husage] at hother ⊢
  exact hother

theorem mem_unresolved_resolve :
    reference ∈ (r.resolve references).unresolved ↔ reference ∈ references ∧ r.target? reference = none := by
  rw [target?_eq_none, ← Option.isNone_iff_eq_none]
  exact List.mem_filter

/-- Nothing is lost and nothing comes twice, and a batch resolves to what its parts resolve to, without the edges of the
second part that the first has. Each reference is unresolved, or has an edge to an entry of the list for its kind. -/
theorem resolve_append (project : Int) (tables routines : List Entry) (a b : List Reference) :
    let r := ofCatalog project tables routines
    (r.resolve (a ++ b)).unresolved = (r.resolve a).unresolved ++ (r.resolve b).unresolved ∧
      (r.resolve (a ++ b)).edges = (r.resolve a).edges ++
        (r.resolve b).edges.filter (fun edge => edge.key ∉ (r.resolve a).edges.map Edge.key) ∧
      ((r.resolve a).edges.map Edge.key).Nodup ∧
      ∀ reference ∈ a, reference ∈ (r.resolve a).unresolved ∨
        ∃ edge ∈ (r.resolve a).edges, edge.source = reference.source ∧ edge.usage = reference.usage ∧
          ∃ e ∈ entriesFor tables routines reference.targetKind, e.entity = edge.target := by
  intro r
  refine ⟨List.filter_append .., ?_, nodup_map_distinctBy _ _ _, fun reference hmem => ?_⟩
  · have hkeys (edge : Edge) : (!((a.filterMap r.edge?).map Edge.key).contains edge.key) =
        decide (edge.key ∉ (r.resolve a).edges.map Edge.key) := by
      show _ = decide (edge.key ∉ (distinctBy Edge.key [] (a.filterMap r.edge?)).map Edge.key)
      simp [mem_map_distinctBy]
    show distinctBy Edge.key [] ((a ++ b).filterMap r.edge?) = _
    rw [List.filterMap_append, distinctBy_append, List.append_nil, distinctBy_eq_filter Edge.key (List.map _ _)]
    simp only [hkeys]
    rfl
  · cases htarget : r.target? reference with
    | none => exact .inl (mem_unresolved_resolve.2 ⟨hmem, htarget⟩)
    | some e =>
      refine .inr ⟨r.edge reference e.entity, mem_edges_resolve.2 ⟨reference, hmem, e, htarget, rfl⟩, rfl, rfl, ?_⟩
      exact ⟨e, mem_entriesFor_of_target? htarget, rfl⟩

end Resolver

end ChangeImpact
