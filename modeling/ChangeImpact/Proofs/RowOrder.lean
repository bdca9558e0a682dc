import ChangeImpact.Proofs.Coherence

/-!
# The order of rows

Rows come in the order of a query, and some may come more than once.  Neither plays a part in an analysis as long as
the rows do not contradict each other: `Analysis.ofDependents_eq_of_mem_iff`.  Caps cut off the same paths whatever the
order of the rows, since a trail goes on in the order of its hops and not in that of the links.

Rows that contradict each other on the name or the annotation of an object are another matter, for there the first one
counts.
-/

namespace ChangeImpact

variable {name : Entity → Option String} {annotated : Entity → Option Int} {rows rows' : List Dependent}

/-- No two rows disagree on what an object is called or how it is annotated. -/
structure Consistent (rows : List Dependent) : Prop where
  name_eq : ∀ a ∈ Graph.mentions rows, ∀ b ∈ Graph.mentions rows, a.entity = b.entity → a.name = b.name
  criticality_eq : ∀ row ∈ rows, ∀ other ∈ rows, row.source.entity = other.source.entity →
    row.criticality = other.criticality

/-- Where all elements of a key have one value, the first of them gives it. -/
private theorem bind_find?_eq {α κ β : Type} [DecidableEq κ] {key : α → κ} {value : α → Option β} {as : List α} {a : α}
    (h : ∀ b ∈ as, key b = key a → value b = value a) (ha : a ∈ as) :
    (as.find? (key · = key a)).bind value = value a := by
  have hsome : (as.find? (key · = key a)).isSome := List.find?_isSome.2 ⟨a, ha, decide_eq_true rfl⟩
  obtain ⟨b, hb⟩ := Option.isSome_iff_exists.1 hsome
  have hkey : key b = key a := by simpa using List.find?_some hb
  rw [hb]
  exact h b (List.mem_of_find?_eq_some hb) hkey

/-- Rows without contradictions are coherent: the first mention of an object and the first row with it as the source
speak for all. -/
theorem Consistent.exists_coherent (h : Consistent rows) : ∃ name annotated, Coherent name annotated rows := by
  have hmention {a : NamedEntity} (ha : a ∈ Graph.mentions rows) :=
    bind_find?_eq (fun b hb => h.name_eq b hb a ha) ha
  refine ⟨fun e => ((Graph.mentions rows).find? (·.entity = e)).bind NamedEntity.name,
    fun e => (rows.find? (·.source.entity = e)).bind Dependent.criticality, ?_, ?_, ?_⟩
  · intro row hrow
    exact (hmention (List.mem_flatMap.2 ⟨row, hrow, List.mem_cons_of_mem _ List.mem_cons_self⟩)).symm
  · intro row hrow
    exact (hmention (List.mem_flatMap.2 ⟨row, hrow, List.mem_cons_self⟩)).symm
  · intro row hrow
    have hsource : ∀ other ∈ rows, other.source.entity = row.source.entity → other.criticality = row.criticality :=
      fun other hother => h.criticality_eq other hother row hrow
    exact (@bind_find?_eq _ _ _ _ (fun row => row.source.entity) _ _ _ hsource hrow).symm

namespace Coherent

theorem of_subset (hc : Coherent name annotated rows) (h : rows' ⊆ rows) : Coherent name annotated rows' where
  source_name row hrow := hc.source_name row (h hrow)
  target_name row hrow := hc.target_name row (h hrow)
  criticality row hrow := hc.criticality row (h hrow)

/-- The first annotation of an object is the same in all lists of the same coherent rows. -/
theorem annotation?_congr {root : Entity} {rootLevel : Option Int} (hc : Coherent name annotated rows)
    (h : ∀ row, row ∈ rows ↔ row ∈ rows') (e : Entity) :
    Graph.annotation? root rootLevel rows e = Graph.annotation? root rootLevel rows' e := by
  have hc' := hc.of_subset fun row => (h row).2
  rw [Graph.annotation?, Graph.annotation?]
  by_cases he : ∃ row ∈ rows, row.source.entity = e
  · have he' : ∃ row ∈ rows', row.source.entity = e := by
      obtain ⟨row, hrow, hsource⟩ := he
      exact ⟨row, (h row).1 hrow, hsource⟩
    rw [hc.findSome?_criticality he, hc'.findSome?_criticality he']
  · have hnone {rows' : List Dependent} (h : rows' ⊆ rows) :
        (rows'.findSome? fun row => if row.source.entity = e then row.criticality else none) = none :=
      List.findSome?_eq_none_iff.2 fun row hrow => if_neg fun hsource => he ⟨row, h hrow, hsource⟩
    rw [hnone (List.Subset.refl rows), hnone fun row => (h row).2]

end Coherent

namespace Analysis

variable {settings : Settings} {policy : ApprovalPolicy} {root : NamedEntity} {rootLevel : Option Int}
  {change : Change}

/-- An analysis does not depend on the order of its rows, nor on how often each of them comes. -/
theorem ofDependents_eq_of_mem_iff (hrows : Consistent rows) (h : ∀ row, row ∈ rows ↔ row ∈ rows') :
    ofDependents settings policy root rootLevel rows change =
      ofDependents settings policy root rootLevel rows' change := by
  obtain ⟨name, annotated, hc⟩ := hrows.exists_coherent
  have hc' := hc.of_subset fun row => (h row).2
  refine ofDependents_congr (hc.agree hc' (hc.annotation?_congr h _) fun t _ _ hop => ?_)
  simp only [Graph.mem_continuations, Graph.mem_affected_ofDependents, h]

/-- Two procedures that read a table and call each other. -/
def mutualReaders : List Dependent :=
  let table : NamedEntity := ⟨⟨.table, 1⟩, some "dbo.Orders"⟩
  let first : NamedEntity := ⟨⟨.procedure, 10⟩, some "dbo.Load"⟩
  let second : NamedEntity := ⟨⟨.procedure, 11⟩, none⟩
  [⟨first, table, .select, 1, some 4⟩, ⟨second, table, .select, 1, none⟩, ⟨first, second, .exec, 2, some 4⟩,
    ⟨second, first, .exec, 2, none⟩]

/-- The cap on paths cuts off the same path whichever row comes first. -/
theorem ofDependents_mutualReaders_reverse :
    let settings : Settings := ⟨2, 1, .high, 3⟩
    let rows := mutualReaders.reverse ++ mutualReaders.take 1
    Consistent mutualReaders ∧ (∀ row, row ∈ mutualReaders ↔ row ∈ rows) ∧
      ofDependents settings ⟨.high⟩ ⟨⟨.table, 1⟩, none⟩ (some 5) mutualReaders .delete =
        ofDependents settings ⟨.high⟩ ⟨⟨.table, 1⟩, none⟩ (some 5) rows .delete ∧
      (ofDependents settings ⟨.high⟩ ⟨⟨.table, 1⟩, none⟩ (some 5) rows .delete).limits = [.paths 1] := by
  intro settings rows
  have hrows : Consistent mutualReaders := ⟨by decide, by decide⟩
  have h : ∀ row, row ∈ mutualReaders ↔ row ∈ rows := by
    intro row
    simp only [rows, List.mem_append, List.mem_reverse]
    exact ⟨.inl, fun hrow => hrow.elim id fun hrow => List.mem_of_mem_take hrow⟩
  exact ⟨hrows, h, ofDependents_eq_of_mem_iff hrows h, by decide +kernel⟩

end Analysis

end ChangeImpact
