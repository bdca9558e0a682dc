import ChangeImpact.Proofs.Requests
import ChangeImpact.Proofs.Sync
import ChangeImpact.Store.Impact

/-!
# Projects apart

The store keeps the objects and the edges of all projects together, numbers objects over all of them, and edges refer to
objects by number.  Still no project shows what happens to another one (`readsSame_run`):

* (reading) whatever is read of a project comes from its own objects and its own edges: `ReadsSame.of_eq`;
* (writing) an object that is put and the edges that are written belong to the project that is asked, and only objects
  and edges of this project make way for them: `objectsOf_put`, `edgesOf_replace`.
-/

namespace ChangeImpact.Store

open Catalog (Object Declaration)

variable {s s' : Store} {project other : Int}

/-! ### Reading -/

/-- All that can be read of a project is the same in both stores. -/
structure ReadsSame (project : Int) (s s' : Store) : Prop where
  objects : s'.objectsOf project = s.objectsOf project
  entries : ∀ kinds, s'.entriesOf project kinds = s.entriesOf project kinds
  definitions : s'.definitionsOf project = s.definitionsOf project
  object : ∀ e, s'.object? project e = s.object? project e
  named : ∀ kind name, s'.find? project kind name = s.find? project kind name
  dependencies : s'.dependencies project = s.dependencies project
  downstream : ∀ root depth, s'.downstream project root depth = s.downstream project root depth
  /-- Also where the object is unknown, and the analysis ends in an error. -/
  analysis : ∀ settings policy root change,
    s'.analyze settings policy project root change = s.analyze settings policy project root change

/-- The objects and the edges of a project are all that its readers look at. -/
theorem ReadsSame.of_eq (hobjects : s'.objectsOf project = s.objectsOf project)
    (hedges : s'.edgesOf project = s.edgesOf project) : ReadsSame project s s' := by
  have hobject (e : Entity) : s'.object? project e = s.object? project e := by rw [object?, object?, hobjects]
  have hdescribe : s'.describe project = s.describe project := by
    funext e depth
    simp only [describe, hobjects]
  have hdownstream (root : Entity) (depth : Nat) :
      s'.downstream project root depth = s.downstream project root depth := by
    rw [Store.downstream, Store.downstream, hedges, hdescribe]
  exact {
    objects := hobjects
    entries := fun kinds => by rw [entriesOf, entriesOf, hobjects]
    definitions := by rw [definitionsOf, definitionsOf, hobjects]
    object := hobject
    named := fun kind name => by rw [find?, find?, hobjects]
    dependencies := by rw [Store.dependencies, Store.dependencies, hedges]
    downstream := hdownstream
    analysis := fun settings policy root change => by
      rw [analyze, analyze, hobject]
      simp only [hdownstream] }

/-! ### Writing -/

/-- Putting an object changes no other project. -/
theorem objectsOf_put {o : Object} (h : project ≠ o.project) : (s.put o).1.objectsOf project = s.objectsOf project :=
  filter_put (p := fun key => key.1 = project) s (decide_eq_false h.symm)

/-- Only edges of the project are cleared, and all that are written become edges of the project. -/
theorem edgesOf_replace (sources : List Entity) (rows : List Edge) (h : other ≠ project) :
    (s.replace project sources rows).1.edgesOf other = s.edgesOf other := by
  show (s.edges.filter _ ++ distinctBy Edge.key [] _).filter (fun e => e.project = other) =
    s.edges.filter fun e => e.project = other
  rw [List.filter_append, List.filter_filter]
  have hwritten : (distinctBy Edge.key [] (rows.map fun e => { e with project := project })).filter
      (fun e => e.project = other) = [] := by
    refine List.filter_eq_nil_iff.2 fun e he => ?_
    obtain ⟨row, _, rfl⟩ := List.mem_map.1 (mem_of_mem_distinctBy he)
    simpa using h.symm
  rw [hwritten, List.append_nil]
  refine List.filter_congr fun e _ => ?_
  by_cases he : e.project = other
  · simp [he, h]
  · simp [he]

/-- A step of one project leaves the objects and the edges of the others. -/
theorem Step.of_ne (hstep : Step project s s') (h : other ≠ project) :
    s'.objectsOf other = s.objectsOf other ∧ s'.edgesOf other = s.edgesOf other := by
  rcases hstep.declares_or_replaces with ⟨ds, hds⟩ | ⟨sources, rows, rfl⟩
  · refine ⟨?_, by rw [edgesOf, edgesOf, edges_declareAll hds]⟩
    exact declareAll_induction (motive := fun next => next.objectsOf other = s.objectsOf other)
      (fun next d _ hnext => (objectsOf_put h).trans hnext) rfl hds
  · exact ⟨rfl, edgesOf_replace sources rows h⟩

/-! ### Requests of other projects -/

/-- However often other projects were asked, with or without success, a project is read as before. -/
theorem readsSame_run (s : Store) {requests : List Request} (h : ∀ request ∈ requests, project ≠ request.project) :
    ReadsSame project s (s.run requests) := by
  suffices heq : (s.run requests).objectsOf project = s.objectsOf project ∧
      (s.run requests).edgesOf project = s.edgesOf project from .of_eq heq.1 heq.2
  induction requests generalizing s with
  | nil => exact ⟨rfl, rfl⟩
  | cons request requests ih =>
    obtain ⟨hrequest, hrest⟩ := List.forall_mem_cons.1 h
    obtain ⟨hobjects, hedges⟩ := ih (s.perform request).1 hrest
    rcases s.step_perform request with hsame | hstep
    · rw [hsame] at hobjects hedges
      rw [run, List.foldl_cons, hsame]
      exact ⟨hobjects, hedges⟩
    · obtain ⟨hobjects', hedges'⟩ := hstep.of_ne hrequest
      exact ⟨hobjects.trans hobjects', hedges.trans hedges'⟩

/-- The first project is asked for a view and something without a name, then for edges that claim to be of the second
project and come from the object that has edges there, then for a synchronization. -/
def intruding : List Request :=
  [.declareAll 1 unnamed, .replace 1 [⟨.procedure, 2⟩] [⟨2, ⟨.procedure, 2⟩, ⟨.table, 7⟩, .insert, 1⟩], .sync 1]

/-- The second project keeps its edge, though the number of its source is that of an object of the first one. -/
theorem readsSame_run_intruding :
    ReadsSame 2 outdated (outdated.run intruding) ∧
      (outdated.run intruding).dependencies 2 = [⟨2, ⟨.procedure, 2⟩, ⟨.table, 1⟩, .delete, 1⟩] ∧
        (outdated.run (intruding.take 2)).dependencies 1 =
          [⟨1, ⟨.procedure, 2⟩, ⟨.table, 7⟩, .insert, 1⟩, ⟨1, ⟨.procedure, 3⟩, ⟨.procedure, 2⟩, .exec, 1⟩] := by
  have hothers : ∀ request ∈ intruding, (2 : Int) ≠ request.project := by decide +kernel
  exact ⟨readsSame_run outdated hothers, by decide +kernel, by decide +kernel⟩

end ChangeImpact.Store
