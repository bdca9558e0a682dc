import ChangeImpact.Proofs.Reachable

/-!
# What a synchronization leaves behind

After a synchronization, the edges from the objects that have, or should have, a definition are what the current
definitions resolve to in the current catalog, whatever edges there were before; all other edges are as they were.  One
equation says both (`sync_edges`), and the rest follows from it: `Reachable.synchronizes`.
-/

namespace ChangeImpact

/-! ### References and edges -/

theorem Store.source_of_mem_references {o : Catalog.Object} {x : Extraction} (hx : extraction o = .ok x)
    {r : Reference} (hr : r ∈ x.references) : r.source = o.entity := by
  unfold extraction Extraction.ofText at hx
  split at hx
  · exact absurd hx (by simp)
  · split at hx
    · obtain rfl : Extraction.empty = x := Except.ok.inj hx
      exact absurd hr List.not_mem_nil
    · rename_i tokens _
      cases hs : Sql.Script.ofTokens tokens with
      | error e =>
        rw [hs] at hx
        exact absurd hx (by simp [Functor.map, Except.map, Except.mapError])
      | ok script =>
        rw [hs] at hx
        obtain rfl : Extraction.ofScript o.entity script = x := Except.ok.inj hx
        exact Extraction.source_of_mem_referencesOf hr

namespace Resolver

theorem nodup_keys_resolve (r : Resolver) (references : List Reference) :
    ((r.resolve references).edges.map Edge.key).Nodup :=
  nodup_map_distinctBy _ _ _

/-- An edge belongs to the project of its resolver and comes from the source of some reference. -/
theorem of_mem_edges_resolve {r : Resolver} {references : List Reference} {e : Edge}
    (he : e ∈ (r.resolve references).edges) :
    e.project = r.project ∧ ∃ reference ∈ references, reference.source = e.source := by
  obtain ⟨reference, hmem, hedge⟩ := List.mem_filterMap.1 (mem_of_mem_distinctBy he)
  obtain ⟨m, _, rfl⟩ := Option.map_eq_some_iff.1 hedge
  exact ⟨rfl, reference, hmem, rfl⟩

end Resolver

namespace Store

open Catalog (Object)

variable {s : Store} {project : Int}

/-- The edge comes from an object of the project that has, or should have, a definition. -/
def isDefined (s : Store) (project : Int) (e : Edge) : Bool :=
  e.project = project && ((s.definitionsOf project).map Object.entity).contains e.source

/-- What the current definitions refer to, one definition after the other. Those that are missing or cannot be read
refer to nothing. -/
def referencesIn (s : Store) (project : Int) : List Reference :=
  ((s.definitionsOf project).filterMap fun o => (extraction o).toOption).flatMap Extraction.references

/-- The edges that the current definitions resolve to in the current catalog. -/
def definedEdges (s : Store) (project : Int) : List Edge :=
  ((s.resolver project).resolve (s.referencesIn project)).edges

/-- A defined edge comes from an object whose definition could be read. -/
theorem exists_of_mem_definedEdges {e : Edge} (he : e ∈ s.definedEdges project) :
    e.project = project ∧ ∃ o ∈ s.definitionsOf project, failure? o = none ∧ o.entity = e.source := by
  obtain ⟨hproject, r, hr, hsource⟩ := Resolver.of_mem_edges_resolve he
  obtain ⟨x, hx, hr⟩ := List.mem_flatMap.1 hr
  obtain ⟨o, ho, hox⟩ := List.mem_filterMap.1 hx
  refine ⟨hproject, o, ho, ?_⟩
  cases hextract : extraction o with
  | error fault =>
    rw [hextract] at hox
    exact absurd hox (by simp [Except.toOption])
  | ok y =>
    rw [hextract] at hox
    obtain rfl : y = x := Option.some.inj hox
    rw [failure?, hextract]
    exact ⟨rfl, (source_of_mem_references hextract hr).symm.trans hsource⟩

theorem isDefined_of_mem_definedEdges {e : Edge} (he : e ∈ s.definedEdges project) :
    s.isDefined project e = true := by
  obtain ⟨hproject, o, ho, _, hsource⟩ := exists_of_mem_definedEdges he
  rw [isDefined, Bool.and_eq_true, decide_eq_true_eq, List.contains_iff_mem]
  exact ⟨hproject, List.mem_map.2 ⟨o, ho, hsource⟩⟩

/-! ### The edges after a synchronization -/

theorem sync_objects (s : Store) (project : Int) : (s.sync project).1.objects = s.objects := rfl

/-- The edges of all defined objects are replaced, and only those. -/
theorem sync_edges (s : Store) (project : Int) :
    (s.sync project).1.edges = (s.edges.filter fun e => !s.isDefined project e) ++ s.definedEdges project := by
  have hwritten : distinctBy Edge.key [] ((s.definedEdges project).map fun e => { e with project := project }) =
      s.definedEdges project := by
    have hproject : ((s.definedEdges project).map fun e => { e with project := project }) = s.definedEdges project := by
      refine (List.map_congr_left fun e he => ?_).trans (List.map_id _)
      rw [← (exists_of_mem_definedEdges he).1]
      rfl
    rw [hproject]
    exact distinctBy_of_nodup (Resolver.nodup_keys_resolve _ _) fun _ _ => List.not_mem_nil
  -- the sources of the edges written are among the defined objects, so they clear nothing more
  have hcleared (e : Edge) : (e.project = project && ((s.definitionsOf project).map Object.entity ++
      (s.definedEdges project).map Edge.source).contains e.source) = s.isDefined project e := by
    refine congrArg (decide (e.project = project) && ·) (Bool.eq_iff_iff.2 ?_)
    rw [List.contains_iff_mem, List.contains_iff_mem, List.mem_append, or_iff_left_iff_imp]
    intro he
    obtain ⟨e', he', hsource⟩ := List.mem_map.1 he
    obtain ⟨_, o, ho, _, ho'⟩ := exists_of_mem_definedEdges he'
    exact List.mem_map.2 ⟨o, ho, ho'.trans hsource⟩
  show (s.edges.filter fun e => !(e.project = project && ((s.definitionsOf project).map Object.entity ++
      (s.definedEdges project).map Edge.source).contains e.source)) ++ distinctBy Edge.key []
        ((s.definedEdges project).map fun e => { e with project := project }) = _
  simp only [hcleared, hwritten]

theorem filter_isDefined_sync (s : Store) (project : Int) :
    (s.sync project).1.edges.filter (s.isDefined project) = s.definedEdges project := by
  rw [sync_edges, List.filter_append, List.filter_filter]
  have hnone : (s.edges.filter fun e => s.isDefined project e && !s.isDefined project e) = [] :=
    List.filter_eq_nil_iff.2 fun e _ => by simp
  rw [hnone, List.nil_append]
  exact List.filter_eq_self.2 fun e he => isDefined_of_mem_definedEdges he

theorem filter_not_isDefined_sync (s : Store) (project : Int) :
    ((s.sync project).1.edges.filter fun e => !s.isDefined project e) =
      s.edges.filter fun e => !s.isDefined project e := by
  rw [sync_edges, List.filter_append, List.filter_filter]
  have hnone : ((s.definedEdges project).filter fun e => !s.isDefined project e) = [] :=
    List.filter_eq_nil_iff.2 fun e he => by simp [isDefined_of_mem_definedEdges he]
  rw [hnone, List.append_nil]
  simp only [Bool.and_self]

/-- A second synchronization finds the same definitions, and has nothing left to do. -/
theorem sync_sync (s : Store) (project : Int) : (s.sync project).1.sync project = s.sync project := by
  have hedges : ((s.sync project).1.sync project).1.edges = (s.sync project).1.edges := by
    rw [sync_edges (s.sync project).1]
    show ((s.sync project).1.edges.filter fun e => !s.isDefined project e) ++ s.definedEdges project = _
    rw [filter_not_isDefined_sync, sync_edges]
  calc (s.sync project).1.sync project
      = (⟨s.objects, ((s.sync project).1.sync project).1.edges⟩, (s.sync project).2) := rfl
    _ = (⟨s.objects, (s.sync project).1.edges⟩, (s.sync project).2) := by rw [hedges]
    _ = s.sync project := rfl

/-- Each defined object was read or has no definition. -/
theorem analyzed_add_countP_failures (s : Store) (project : Int) :
    (s.sync project).2.analyzed + (s.sync project).2.failures.countP (·.fault = .missingDefinition) =
      (s.definitionsOf project).length := by
  have hmissing (o : Object) :
      ((failure? o).map fun f => decide (f.fault = .missingDefinition)).getD false = !o.definition.isSome := by
    unfold failure? extraction
    cases o.definition with
    | none => rfl
    | some sql => cases h : Extraction.ofText o.entity sql <;> simp [Except.mapError, h]
  show (s.definitionsOf project).countP (·.definition.isSome) +
    ((s.definitionsOf project).filterMap failure?).countP (·.fault = .missingDefinition) = _
  rw [List.countP_filterMap, funext hmissing, List.length_eq_countP_add_countP fun o : Object => o.definition.isSome]
  simp only [Bool.not_eq_true, Bool.decide_eq_false]

/-- What a synchronization of a project makes of a store. -/
structure Synchronizes (s : Store) (project : Int) : Prop where
  /-- The edges from defined objects are those that the current definitions resolve to. -/
  defined_edges : (s.sync project).1.edges.filter (s.isDefined project) = s.definedEdges project
  /-- None of them comes twice. -/
  nodup_keys : (((s.sync project).1.edges.filter (s.isDefined project)).map Edge.key).Nodup
  /-- No edge comes from an object whose definition is missing or cannot be read. -/
  failed : ∀ o ∈ s.definitionsOf project, (failure? o).isSome →
    ∀ e ∈ (s.sync project).1.edges, e.project = project → e.source ≠ o.entity
  /-- Another store with the same catalog ends up with the same edges from defined objects. -/
  independent : ∀ other : Store, other.objects = s.objects →
    (other.sync project).1.edges.filter (s.isDefined project) = s.definedEdges project
  /-- Edges of other projects and from other objects stay. -/
  other_edges : ((s.sync project).1.edges.filter fun e => !s.isDefined project e) =
    s.edges.filter fun e => !s.isDefined project e
  objects : (s.sync project).1.objects = s.objects
  /-- A second synchronization changes nothing and reports the same. -/
  again : (s.sync project).1.sync project = s.sync project
  resolved : (s.sync project).2.resolved = ((s.sync project).1.edges.filter (s.isDefined project)).length
  analyzed : (s.sync project).2.analyzed + (s.sync project).2.failures.countP (·.fault = .missingDefinition) =
    (s.definitionsOf project).length

/-- After any requests, a synchronization leaves the edges that the current definitions call for. -/
theorem Reachable.synchronizes (hs : Reachable s) (project : Int) : s.Synchronizes project where
  defined_edges := filter_isDefined_sync s project
  nodup_keys := by
    rw [filter_isDefined_sync]
    exact Resolver.nodup_keys_resolve _ _
  failed := by
    intro o ho hfailed e he hproject hsource
    have hdefined : e ∈ s.definedEdges project := by
      rw [← filter_isDefined_sync]
      refine List.mem_filter.2 ⟨he, ?_⟩
      rw [isDefined, Bool.and_eq_true, decide_eq_true_eq, List.contains_iff_mem]
      exact ⟨hproject, List.mem_map.2 ⟨o, ho, hsource.symm⟩⟩
    obtain ⟨_, o', ho', hread, hsource'⟩ := exists_of_mem_definedEdges hdefined
    -- the two objects have the same number
    have hid : o'.id = o.id := congrArg Entity.id (hsource'.trans hsource)
    have hmem {o : Object} (ho : o ∈ s.definitionsOf project) : o ∈ s.objects :=
      List.mem_of_mem_filter (List.mem_of_mem_filter ho)
    rw [← List.inj_on_of_nodup_map hs.nodup_ids (hmem ho') (hmem ho) hid, hread] at hfailed
    exact absurd hfailed (by simp)
  independent := by
    rintro ⟨objects, edges⟩ rfl
    exact filter_isDefined_sync ⟨s.objects, edges⟩ project
  other_edges := filter_not_isDefined_sync s project
  objects := sync_objects s project
  again := sync_sync s project
  resolved := by
    rw [filter_isDefined_sync]
    rfl
  analyzed := analyzed_add_countP_failures s project

/-- A table, a procedure that reads it and one without a definition. The edges are those of an earlier day: the first
procedure deleted rows, and the second called the first. -/
def outdated : Store where
  objects :=
    [⟨1, 1, .table, "dbo", "Orders", none, none⟩,
      ⟨2, 1, .procedure, "dbo", "ReadOrders", some 4, some "SELECT * FROM Orders"⟩,
      ⟨3, 1, .procedure, "", "Nightly", none, none⟩]
  edges :=
    [⟨1, ⟨.procedure, 2⟩, ⟨.table, 1⟩, .delete, 1⟩, ⟨1, ⟨.procedure, 3⟩, ⟨.procedure, 2⟩, .exec, 1⟩,
      ⟨2, ⟨.procedure, 2⟩, ⟨.table, 1⟩, .delete, 1⟩]

theorem synchronizes_outdated :
    Reachable outdated ∧ outdated.Synchronizes 1 ∧
      (outdated.sync 1).1.edges =
        [⟨2, ⟨.procedure, 2⟩, ⟨.table, 1⟩, .delete, 1⟩, ⟨1, ⟨.procedure, 2⟩, ⟨.table, 1⟩, .select, 1⟩] := by
  have hcatalog : Store.empty.declareAll 1
      [⟨.table, some "dbo", "Orders", none, none⟩,
        ⟨.procedure, some " dbo", "ReadOrders ", some 4, some "SELECT * FROM Orders"⟩,
        ⟨.procedure, none, "Nightly", none, none⟩] = .ok ⟨outdated.objects, []⟩ := by rfl
  have hfirst : Step 1 ⟨outdated.objects, []⟩ ⟨outdated.objects, outdated.edges.take 2⟩ :=
    .replace [] (outdated.edges.take 2)
  have hsecond : Step 2 ⟨outdated.objects, outdated.edges.take 2⟩ outdated := .replace [] (outdated.edges.drop 2)
  have hreachable : Reachable outdated := ((Reachable.empty.step (.declareAll hcatalog)).step hfirst).step hsecond
  exact ⟨hreachable, hreachable.synchronizes 1, by decide +kernel⟩

end Store

end ChangeImpact
