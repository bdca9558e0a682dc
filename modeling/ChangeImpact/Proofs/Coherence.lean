import ChangeImpact.Proofs.Agreement

/-!
# Rows that agree on names and annotations

Rows are coherent if each object goes by one name in all of them and has one annotation.  Then it plays no part which
row mentions an object first: the node of every source is known from the object (`Coherent.node?_source`).  Graphs of
coherent rows agree as soon as their simple trails go on in the same ways (`Coherent.agree`).
-/

namespace ChangeImpact

/-- All rows know an object by one name, and its annotation is the same in each. -/
structure Coherent (name : Entity → Option String) (annotated : Entity → Option Int) (rows : List Dependent) :
    Prop where
  source_name : ∀ row ∈ rows, row.source.name = name row.source.entity
  target_name : ∀ row ∈ rows, row.target.name = name row.target.entity
  criticality : ∀ row ∈ rows, row.criticality = annotated row.source.entity

namespace Coherent

variable {name : Entity → Option String} {annotated : Entity → Option Int} {root : NamedEntity}
  {rootLevel : Option Int} {default depth : Nat} {rows rows' : List Dependent} {e : Entity}

/-- The first annotation of a source is that of all its rows. -/
theorem findSome?_criticality (hc : Coherent name annotated rows) (he : ∃ row ∈ rows, row.source.entity = e) :
    (rows.findSome? fun row => if row.source.entity = e then row.criticality else none) = annotated e := by
  rcases hf : rows.findSome? fun row => if row.source.entity = e then row.criticality else none with _ | level
  · obtain ⟨row, hrow, rfl⟩ := he
    have hnone := List.findSome?_eq_none_iff.1 hf row hrow
    rw [if_pos rfl] at hnone
    rw [hf, ← hc.criticality row hrow, hnone]
  · obtain ⟨row, hrow, hsome⟩ := List.exists_of_findSome?_eq_some hf
    split at hsome
    · rename_i hsource
      rw [hf, ← hsource, ← hc.criticality row hrow, hsome]
    · exact absurd hsome (by simp)

theorem annotation?_source (hc : Coherent name annotated rows) (hne : e ≠ root.entity)
    (he : ∃ row ∈ rows, row.source.entity = e) : Graph.annotation? root.entity rootLevel rows e = annotated e := by
  rw [Graph.annotation?, if_neg hne, hc.findSome?_criticality he]
  rfl

/-- An annotation of the root that its rows repeat counts whether there are such rows or not. -/
theorem annotation?_root (hc : Coherent name annotated rows) (hroot : annotated root.entity = rootLevel) :
    Graph.annotation? root.entity rootLevel rows root.entity = rootLevel := by
  rw [Graph.annotation?, if_pos rfl]
  cases rootLevel with
  | some level => rfl
  | none =>
    show (rows.findSome? fun row => if row.source.entity = root.entity then row.criticality else none) = none
    refine List.findSome?_eq_none_iff.2 fun row hrow => ?_
    split
    · rename_i hsource
      rw [hc.criticality row hrow, hsource, hroot]
    · rfl

/-- The node of an object that is a source. -/
theorem node?_source (hc : Coherent name annotated rows) (hne : e ≠ root.entity)
    (he : ∃ row ∈ rows, row.source.entity = e) :
    (Graph.ofDependents root rootLevel default rows).node? e =
      some ⟨⟨e, name e⟩, Criticality.clamp ((annotated e).getD default)⟩ := by
  have hm : e ∈ (Graph.ofDependents root rootLevel default rows).entities := by
    obtain ⟨row, hrow, hsource⟩ := he
    exact Graph.mem_entities_ofDependents.2 (.inr ⟨row, hrow, .inr hsource⟩)
  obtain ⟨n, hn, hmem, hentity⟩ := Graph.exists_node?_eq_some hm
  rw [hn]
  rcases List.mem_cons.1 hmem with rfl | hmem
  · exact absurd hentity.symm hne
  · obtain ⟨object, hobject, rfl⟩ := List.mem_map.1 hmem
    obtain rfl : object.entity = e := hentity
    -- the object is the first mention of its entity, and all mentions have the same name
    obtain ⟨row, hrow, hmention⟩ := List.mem_flatMap.1 (mem_of_mem_distinctBy hobject)
    have hname : object.name = name object.entity := by
      simp only [List.mem_cons, List.not_mem_nil, or_false] at hmention
      rcases hmention with rfl | rfl
      · exact hc.target_name row hrow
      · exact hc.source_name row hrow
    have hlevel : Graph.level root.entity rootLevel rows default object.entity =
        Criticality.clamp ((annotated object.entity).getD default) := by
      rw [Graph.level, hc.annotation?_source hne he]
    rw [hlevel, ← hname]

/-- Graphs of coherent rows agree if their roots are annotated alike and their simple trails within the depth have the
same continuations. -/
theorem agree (hc : Coherent name annotated rows) (hc' : Coherent name annotated rows')
    (hroot : Graph.annotation? root.entity rootLevel rows root.entity =
      Graph.annotation? root.entity rootLevel rows' root.entity)
    (h : ∀ t, (Graph.ofDependents root rootLevel default rows).IsSimple t → t.hops.length ≤ depth → ∀ hop,
      hop ∈ (Graph.ofDependents root rootLevel default rows).continuations t ↔
        hop ∈ (Graph.ofDependents root rootLevel default rows').continuations t) :
    (Graph.ofDependents root rootLevel default rows).Agree (Graph.ofDependents root rootLevel default rows')
      depth := by
  have hg := Graph.ofDependents_wellFormed root rootLevel default rows
  have hg' := Graph.ofDependents_wellFormed root rootLevel default rows'
  have hnode : (Graph.ofDependents root rootLevel default rows).root =
      (Graph.ofDependents root rootLevel default rows').root := by
    simp only [Graph.ofDependents, Graph.level, hroot]
  refine ⟨hnode, fun t ht hd => ?_, fun t ht hd e he => ?_⟩
  · exact Hop.eq_of_pairwise_le (hg.sorted_continuations t) (hg'.sorted_continuations t) (hg.nodup_continuations t)
      (hg'.nodup_continuations t) (h t ht hd)
  · by_cases hne : e = root.entity
    · rw [hne]
      exact (Graph.node?_root _).trans ((congrArg some hnode).trans (Graph.node?_root _).symm)
    · -- some hop of the trail leads to the object, so both lists have a row with it as the source
      obtain ⟨s, hs, hse, hp⟩ := ht.exists_tail_eq he
      induction s using Trail.induction_extend with
      | start r => exact absurd (hse.symm.trans (Graph.isSimple_nil.1 hs)) hne
      | extend s hop _ =>
        obtain rfl : hop.entity = e := (Trail.tail_extend s hop).symm.trans hse
        obtain ⟨hs, hcont⟩ := Graph.isSimple_extend.1 hs
        have hl := hp.length_le
        rw [Trail.hops_extend, List.length_append] at hl
        have hcont' := (h s hs (by omega) hop).1 hcont
        obtain ⟨row, hrow, _, hsource, _⟩ := Graph.mem_affected_ofDependents.1 (Graph.mem_continuations.1 hcont).1
        obtain ⟨row', hrow', _, hsource', _⟩ := Graph.mem_affected_ofDependents.1 (Graph.mem_continuations.1 hcont').1
        rw [hc.node?_source hne ⟨row, hrow, hsource⟩, hc'.node?_source hne ⟨row', hrow', hsource'⟩]

end Coherent

end ChangeImpact
