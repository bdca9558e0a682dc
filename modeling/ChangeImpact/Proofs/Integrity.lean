import ChangeImpact.Proofs.Names
import ChangeImpact.Proofs.Reachable

/-!
# What every state of a store has in common

A store checks nothing when it is read, so what its readers rely on (`Store.Sound`) must hold of every state there is
(`Reachable.sound`).  Each part is shown for one step, of which there are only two kinds:

* (putting an object) the object is clean, since a declaration is trimmed and its annotation clamped before it is put, and
  what an object is known by is new or stays with the object that had it;
* (replacing edges) the edges that are written are distinct, and those that are kept come from other sources.

In neither does an object go away (`Step.exists_same`).
-/

namespace ChangeImpact

open Catalog (Object Declaration)

/-- The name is not empty, name and schema are trimmed, and an annotation is in range. -/
structure Catalog.Object.IsClean (o : Object) : Prop where
  name_ne : o.name ≠ ""
  trim_name : Text.trim o.name = o.name
  trim_schema : Text.trim o.schema = o.schema
  criticality : ∀ level ∈ o.criticality, 1 ≤ level ∧ level ≤ 5

namespace Store

variable {s s' : Store} {project : Int}

/-- Every object is clean, no two share a number or what they are known by, and no edge of a project comes twice. -/
structure Sound (s : Store) : Prop where
  clean : ∀ o ∈ s.objects, o.IsClean
  nodup_ids : (s.objects.map Object.id).Nodup
  nodup_keys : (s.objects.map Object.key).Nodup
  nodup_edges : (s.edges.map fun e => (e.project, e.key)).Nodup

/-! ### One object -/

theorem isClean_declared {id : Int} {d : Declaration} (h : (declared project id d).name ≠ "") :
    (declared project id d).IsClean where
  name_ne := h
  trim_name := Text.trim_trim d.name
  trim_schema := by
    show Text.trim ((d.schema.map Text.trim).getD "") = (d.schema.map Text.trim).getD ""
    cases d.schema with
    | none => rfl
    | some schema => exact Text.trim_trim schema
  criticality := by
    intro level hlevel
    obtain ⟨n, _, rfl⟩ := Option.map_eq_some_iff.1 hlevel
    exact ⟨Criticality.lowest_le_clamp n, Criticality.clamp_le_highest n⟩

/-- The object in a store after a put is that which was put, but for the number, or was there before. -/
theorem mem_put {o other : Object} (h : other ∈ (s.put o).1.objects) :
    other ∈ s.objects ∨ ∃ id, other = { o with id := id } := by
  rw [put_objects, List.mem_append, List.mem_map] at h
  rcases h with ⟨old, hold, rfl⟩ | hnew
  · unfold overwrite
    split
    · exact .inr ⟨old.id, rfl⟩
    · exact .inl hold
  · split at hnew
    · exact absurd hnew List.not_mem_nil
    · exact .inr ⟨o.id, List.mem_singleton.1 hnew⟩

theorem Step.clean (h : Step project s s') (hs : ∀ o ∈ s.objects, o.IsClean) : ∀ o ∈ s'.objects, o.IsClean := by
  rcases h.declares_or_replaces with ⟨ds, h⟩ | ⟨sources, rows, rfl⟩
  · refine declareAll_induction (motive := fun s => ∀ o ∈ s.objects, o.IsClean) (fun s d hname hs o ho => ?_) hs h
    rcases mem_put ho with ho | ⟨id, rfl⟩
    · exact hs o ho
    · obtain ⟨hne, hn, hschema, hlevel⟩ := isClean_declared hname
      exact ⟨hne, hn, hschema, hlevel⟩
  · exact hs

theorem Step.nodup_keys (h : Step project s s') (hs : (s.objects.map Object.key).Nodup) :
    (s'.objects.map Object.key).Nodup := by
  rcases h.declares_or_replaces with ⟨ds, h⟩ | ⟨sources, rows, rfl⟩
  · refine declareAll_induction (motive := fun s => (s.objects.map Object.key).Nodup) (fun s d _ hs => ?_) hs h
    rw [map_key_put]
    split
    · rwa [List.append_nil]
    · rename_i hnew
      exact hs.append (List.nodup_singleton _) (List.disjoint_singleton.2 hnew)
  · exact hs

/-! ### Edges -/

theorem edges_declareAll {ds : List Declaration} (h : s.declareAll project ds = .ok s') : s'.edges = s.edges :=
  declareAll_induction (motive := fun next => next.edges = s.edges) (fun s _ _ hs => (put_edges s _).trans hs) rfl h

/-- The edges that are kept come from other sources than those that are written. -/
theorem nodup_edges_replace (sources : List Entity) (rows : List Edge)
    (hs : (s.edges.map fun e => (e.project, e.key)).Nodup) :
    ((s.replace project sources rows).1.edges.map fun e => (e.project, e.key)).Nodup := by
  show ((s.edges.filter _ ++ distinctBy Edge.key [] _).map fun e => (e.project, e.key)).Nodup
  rw [List.map_append]
  refine (hs.sublist (List.filter_sublist.map _)).append ?_ ?_
  · have hkeys := nodup_map_distinctBy Edge.key [] (rows.map fun e => { e with project := project })
    rw [List.Nodup, List.pairwise_map] at hkeys ⊢
    exact hkeys.imp fun hne heq => hne (congrArg Prod.snd heq)
  · intro k hkept hwritten
    obtain ⟨e, he, rfl⟩ := List.mem_map.1 hkept
    obtain ⟨e', he', heq⟩ := List.mem_map.1 hwritten
    obtain ⟨row, hrow, rfl⟩ := List.mem_map.1 (mem_of_mem_distinctBy he')
    obtain ⟨hproject, hkey⟩ := Prod.mk.inj heq
    have hsource : row.source = e.source := congrArg Prod.fst hkey
    have hcleared := (List.mem_filter.1 he).2
    simp only [← hproject, decide_true, Bool.true_and, Bool.not_eq_true', ← Bool.not_eq_true,
      List.contains_iff_mem] at hcleared
    exact hcleared (List.mem_append_right _ (List.mem_map.2 ⟨row, hrow, hsource⟩))

theorem Step.nodup_edges (h : Step project s s') (hs : (s.edges.map fun e => (e.project, e.key)).Nodup) :
    (s'.edges.map fun e => (e.project, e.key)).Nodup := by
  rcases h.declares_or_replaces with ⟨ds, h⟩ | ⟨sources, rows, rfl⟩
  · rwa [edges_declareAll h]
  · exact nodup_edges_replace sources rows hs

/-! ### All states -/

theorem Reachable.sound (h : Reachable s) : s.Sound := by
  induction h with
  | empty =>
    exact ⟨fun o ho => absurd ho List.not_mem_nil, List.nodup_nil, List.nodup_nil, List.nodup_nil⟩
  | step hs hstep ih =>
    exact ⟨hstep.clean ih.clean, (hs.step hstep).nodup_ids, hstep.nodup_keys ih.nodup_keys,
      hstep.nodup_edges ih.nodup_edges⟩

/-- No object goes away, and none is known by another number or otherwise. -/
theorem Step.exists_same (h : Step project s s') {o : Object} (ho : o ∈ s.objects) :
    ∃ o' ∈ s'.objects, o'.id = o.id ∧ o'.key = o.key := by
  rcases h.declares_or_replaces with ⟨ds, h⟩ | ⟨sources, rows, rfl⟩
  · refine declareAll_induction (motive := fun s => ∃ o' ∈ s.objects, o'.id = o.id ∧ o'.key = o.key)
      (fun s d _ hs => ?_) ⟨o, ho, rfl, rfl⟩ h
    obtain ⟨o', ho', hid, hkey⟩ := hs
    refine ⟨overwrite (declared project s.nextId d) o', ?_, by rw [id_overwrite, hid], by rw [key_overwrite, hkey]⟩
    rw [put_objects]
    exact List.mem_append_left _ (List.mem_map_of_mem ho')
  · exact ⟨o, ho, rfl, rfl⟩

end Store

end ChangeImpact
