import ChangeImpact.Store.Sync
import Mathlib.Data.List.Nodup
import Mathlib.Data.List.Pairwise

/-!
# The states of a store

A store begins empty and is changed by four requests, each for one project.  A request that fails leaves the store as it
is, so only those that succeed are steps.  All that a step can do is to put objects one after the other or to replace
edges (`Step.declares_or_replaces`), and all that `put` does to the catalog is said by one equation (`put_objects`).
Numbers are given out in ascending order (`Reachable.sorted_ids`), so no two objects share one, which is why an edge with
an object of the catalog at one end has only that object there (`Reachable.nodup_ids`).
-/

namespace ChangeImpact

/-- What the catalog knows an object by. -/
def Catalog.Object.key (o : Catalog.Object) : Int × ObjectKind × String × String :=
  (o.project, o.kind, o.schema, o.name)

namespace Store

open Catalog (Object Declaration)

variable {s s' : Store} {project : Int}

/-! ### Putting an object -/

theorem sameObject_iff {a b : Object} : sameObject a b ↔ a.key = b.key := by
  simp [sameObject, Object.key, and_assoc]

/-- What becomes of an object when another is put: of the same object only the number stays. -/
def overwrite (o other : Object) : Object :=
  if sameObject o other then { o with id := other.id } else other

@[simp] theorem id_overwrite (o other : Object) : (overwrite o other).id = other.id := by
  unfold overwrite
  split <;> rfl

@[simp] theorem key_overwrite (o other : Object) : (overwrite o other).key = other.key := by
  unfold overwrite
  split
  · rename_i hsame
    exact sameObject_iff.1 hsame
  · rfl

theorem overwrite_of_key_ne {o other : Object} (h : o.key ≠ other.key) : overwrite o other = other :=
  if_neg (mt sameObject_iff.1 h)

/-- An object is overwritten by the one that is put, or that one is new and comes last. -/
theorem put_objects (s : Store) (o : Object) :
    (s.put o).1.objects =
      s.objects.map (overwrite o) ++ if o.key ∈ s.objects.map Object.key then [] else [o] := by
  have hmem : o.key ∈ s.objects.map Object.key ↔ ∃ other ∈ s.objects, sameObject o other := by
    simp only [List.mem_map, sameObject_iff]
    exact exists_congr fun other => and_congr_right fun _ => eq_comm
  unfold put
  split
  · rename_i known hknown
    rw [if_pos (hmem.2 ⟨known, List.mem_of_find?_eq_some hknown, List.find?_some hknown⟩), List.append_nil]
    rfl
  · rename_i hnone
    have hnew : ∀ other ∈ s.objects, ¬ sameObject o other := List.find?_eq_none.1 hnone
    rw [if_neg fun h => (hmem.1 h).elim fun other hother => hnew other hother.1 hother.2]
    have hsame : s.objects.map (overwrite o) = s.objects :=
      (List.map_congr_left fun other hother => if_neg (hnew other hother)).trans (List.map_id _)
    rw [hsame]

theorem put_edges (s : Store) (o : Object) : (s.put o).1.edges = s.edges := by
  unfold put
  split <;> rfl

/-- The numbers stay, and a new object comes under its own. -/
theorem map_id_put (s : Store) (o : Object) :
    (s.put o).1.objects.map Object.id =
      s.objects.map Object.id ++ if o.key ∈ s.objects.map Object.key then [] else [o.id] := by
  rw [put_objects, List.map_append, List.map_map, apply_ite (List.map Object.id)]
  exact congrArg (· ++ _) (List.map_congr_left fun other _ => id_overwrite o other)

theorem map_key_put (s : Store) (o : Object) :
    (s.put o).1.objects.map Object.key =
      s.objects.map Object.key ++ if o.key ∈ s.objects.map Object.key then [] else [o.key] := by
  rw [put_objects, List.map_append, List.map_map, apply_ite (List.map Object.key)]
  exact congrArg (· ++ _) (List.map_congr_left fun other _ => key_overwrite o other)

/-! ### Requests -/

/-- A request of a project takes one store to another. -/
inductive Step (project : Int) (s : Store) : Store → Prop
  | declare {d : Declaration} {s' : Store} {id : Int} : s.declare project d = .ok (s', id) → Step project s s'
  | declareAll {ds : List Declaration} {s' : Store} : s.declareAll project ds = .ok s' → Step project s s'
  | replace (sources : List Entity) (rows : List Edge) : Step project s (s.replace project sources rows).1
  | sync : Step project s (s.sync project).1

/-- The stores that come about by requests of any projects. -/
inductive Reachable : Store → Prop
  | empty : Reachable .empty
  | step {s s' : Store} {project : Int} : Reachable s → Step project s s' → Reachable s'

theorem declare_eq_ok {d : Declaration} {id : Int} (h : s.declare project d = .ok (s', id)) :
    (declared project s.nextId d).name ≠ "" ∧ s.put (declared project s.nextId d) = (s', id) := by
  rw [declare] at h
  split at h
  · exact absurd h (by simp)
  · rename_i hname
    exact ⟨by simpa using hname, Except.ok.inj h⟩

theorem declareAll_cons_eq_ok {d : Declaration} {ds : List Declaration} (h : s.declareAll project (d :: ds) = .ok s') :
    (declared project s.nextId d).name ≠ "" ∧
      (s.put (declared project s.nextId d)).1.declareAll project ds = .ok s' := by
  rw [declareAll, List.foldlM_cons] at h
  cases hd : s.declare project d with
  | error e =>
    rw [hd] at h
    exact absurd h (by simp [bind, Except.bind])
  | ok next =>
    rw [hd] at h
    obtain ⟨hname, hput⟩ := declare_eq_ok hd
    exact ⟨hname, hput ▸ h⟩

/-- What survives each object that is put survives all declarations. -/
theorem declareAll_induction {motive : Store → Prop} {ds : List Declaration}
    (put : ∀ s d, (declared project s.nextId d).name ≠ "" → motive s →
      motive (s.put (declared project s.nextId d)).1)
    (hs : motive s) (h : s.declareAll project ds = .ok s') : motive s' := by
  induction ds generalizing s with
  | nil =>
    obtain rfl : s = s' := Except.ok.inj h
    exact hs
  | cons d ds ih =>
    obtain ⟨hname, hrest⟩ := declareAll_cons_eq_ok h
    exact ih (put s d hname hs) hrest

/-- One declaration is a list of one, and a synchronization replaces edges. -/
theorem Step.declares_or_replaces (h : Step project s s') :
    (∃ ds, s.declareAll project ds = .ok s') ∨ ∃ sources rows, s' = (s.replace project sources rows).1 := by
  cases h with
  | @declare d _ _ h => exact .inl ⟨[d], by simp [Store.declareAll, h, Functor.map, Except.map]⟩
  | @declareAll ds _ h => exact .inl ⟨ds, h⟩
  | replace sources rows => exact .inr ⟨sources, rows, rfl⟩
  | sync => exact .inr ⟨_, _, rfl⟩

/-! ### Numbers of objects -/

private theorem le_foldl_max (objects : List Object) (n : Int) :
    n ≤ objects.foldl (fun largest o => max largest o.id) n ∧
      ∀ o ∈ objects, o.id ≤ objects.foldl (fun largest o => max largest o.id) n := by
  induction objects generalizing n with
  | nil => exact ⟨Int.le_refl n, fun _ h => absurd h List.not_mem_nil⟩
  | cons o objects ih =>
    obtain ⟨hn, hall⟩ := ih (max n o.id)
    refine ⟨by rw [List.foldl_cons]; omega, fun o' ho' => ?_⟩
    rw [List.foldl_cons]
    rcases List.mem_cons.1 ho' with rfl | ho'
    · omega
    · exact hall o' ho'

theorem lt_nextId {o : Object} (ho : o ∈ s.objects) : o.id < s.nextId := by
  have hle := (le_foldl_max s.objects 0).2 o ho
  rw [nextId]
  omega

theorem Step.sorted_ids (h : Step project s s') (hs : (s.objects.map Object.id).Pairwise (· < ·)) :
    (s'.objects.map Object.id).Pairwise (· < ·) := by
  rcases h.declares_or_replaces with ⟨ds, h⟩ | ⟨sources, rows, rfl⟩
  · refine declareAll_induction (motive := fun s => (s.objects.map Object.id).Pairwise (· < ·)) (fun s d _ hs => ?_)
      hs h
    rw [map_id_put, List.pairwise_append]
    refine ⟨hs, by split <;> simp, fun id hid new hnew => ?_⟩
    -- a new object has the next number
    obtain rfl : new = s.nextId := by
      split at hnew
      · exact absurd hnew List.not_mem_nil
      · exact List.mem_singleton.1 hnew
    obtain ⟨o, ho, rfl⟩ := List.mem_map.1 hid
    exact lt_nextId ho
  · exact hs

/-- Objects stand in the order of their numbers. -/
theorem Reachable.sorted_ids (h : Reachable s) : (s.objects.map Object.id).Pairwise (· < ·) := by
  induction h with
  | empty => exact List.Pairwise.nil
  | step _ hstep ih => exact hstep.sorted_ids ih

/-- No two objects of a store share a number. -/
theorem Reachable.nodup_ids (h : Reachable s) : (s.objects.map Object.id).Nodup :=
  h.sorted_ids.imp Int.ne_of_lt

end Store

end ChangeImpact
