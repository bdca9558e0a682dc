import ChangeImpact.Proofs.Integrity

/-!
# Requests

A store is asked to declare objects, to replace edges or to synchronize a project, in any order and with or without
success.  `Store.perform` answers one request, and leaves the store as it was if it cannot; the stores that come about in
this way are the reachable ones (`Reachable.run`).

Several declarations are written one after the other, and the first one without a name ends them when those before it
have already been written (`declareEach_eq`).  That they count all together or not at all is therefore not what happens
to each of them: it is what is left after all has been taken back (`perform_declareAll`).  If all have a name, then of
those for one object the last one counts, and no other object changes (`declares_putAll`).
-/

namespace ChangeImpact

open Catalog (Object Declaration)

/-- What may be asked of a store. -/
inductive Request where
  | declare (project : Int) (d : Declaration)
  | declareAll (project : Int) (ds : List Declaration)
  | replace (project : Int) (sources : List Entity) (rows : List Edge)
  | sync (project : Int)

/-- The project that is asked for something. -/
def Request.project : Request → Int
  | .declare project _ | .declareAll project _ | .replace project _ _ | .sync project => project

namespace Store

variable {s s' : Store} {project : Int} {d : Declaration} {ds : List Declaration}

/-- A change that ends in an error does not take place. -/
def settle (s : Store) : Except Error Store → Store × Option Error
  | .ok s' => (s', none)
  | .error e => (s, some e)

/-- The store after a request, and the error if it could not be answered. -/
def perform (s : Store) : Request → Store × Option Error
  | .declare project d => s.settle (Prod.fst <$> s.declare project d)
  | .declareAll project ds => s.settle (s.declareAll project ds)
  | .replace project sources rows => ((s.replace project sources rows).1, none)
  | .sync project => ((s.sync project).1, none)

/-- The store after any requests, whether they could be answered or not. -/
def run (s : Store) (requests : List Request) : Store :=
  requests.foldl (fun s request => (s.perform request).1) s

theorem step_perform (s : Store) (request : Request) :
    (s.perform request).1 = s ∨ Step request.project s (s.perform request).1 := by
  cases request with
  | declare project d =>
    rcases hd : s.declare project d with e | ⟨s', id⟩ <;> simp only [perform, hd]
    · exact .inl rfl
    · exact .inr (.declare hd)
  | declareAll project ds =>
    rcases hds : s.declareAll project ds with e | s' <;> simp only [perform, hds]
    · exact .inl rfl
    · exact .inr (.declareAll hds)
  | replace project sources rows => exact .inr (.replace sources rows)
  | sync project => exact .inr .sync

/-- What survives each step survives any requests. -/
theorem run_induction {motive : Store → Prop}
    (step : ∀ s s' project, Step project s s' → motive s → motive s') (hs : motive s) (requests : List Request) :
    motive (s.run requests) := by
  induction requests generalizing s with
  | nil => exact hs
  | cons request requests ih =>
    show motive ((s.perform request).1.run requests)
    rcases s.step_perform request with heq | hstep
    · rw [heq]
      exact ih hs
    · exact ih (step _ _ request.project hstep hs)

theorem Reachable.run (hs : Reachable s) (requests : List Request) : Reachable (s.run requests) :=
  run_induction (motive := Reachable) (fun _ _ _ hstep hs => hs.step hstep) hs requests

/-- An object stays the same over any requests. -/
theorem exists_same_run (requests : List Request) {o : Object} (ho : o ∈ s.objects) :
    ∃ o' ∈ (s.run requests).objects, o'.id = o.id ∧ o'.key = o.key := by
  refine run_induction (motive := fun s => ∃ o' ∈ s.objects, o'.id = o.id ∧ o'.key = o.key)
    (fun s s' project hstep hs => ?_) ⟨o, ho, rfl, rfl⟩ requests
  obtain ⟨known, hknown, hid, hkey⟩ := hs
  obtain ⟨o', ho', hid', hkey'⟩ := hstep.exists_same hknown
  exact ⟨o', ho', hid'.trans hid, hkey'.trans hkey⟩

/-! ### Declarations all together -/

/-- The declaration has no name to know an object by. -/
def isBlank (d : Declaration) : Bool :=
  (Text.trim d.name).isEmpty

theorem declare_eq (s : Store) (project : Int) (d : Declaration) :
    s.declare project d =
      if isBlank d then .error (.blankName d.kind) else .ok (s.put (declared project s.nextId d)) := rfl

/-- What the object that a declaration stands for is known by. -/
def keyOf (project : Int) (d : Declaration) : Int × ObjectKind × String × String :=
  (project, d.kind, (d.schema.map Text.trim).getD "", Text.trim d.name)

theorem key_declared (project id : Int) (d : Declaration) : (declared project id d).key = keyOf project d := rfl

/-- Puts the objects of declarations one after the other. -/
def putAll (s : Store) (project : Int) (ds : List Declaration) : Store :=
  ds.foldl (fun s d => (s.put (declared project s.nextId d)).1) s

theorem putAll_append_singleton (s : Store) (project : Int) (ds : List Declaration) (d : Declaration) :
    s.putAll project (ds ++ [d]) =
      ((s.putAll project ds).put (declared project (s.putAll project ds).nextId d)).1 := by
  rw [putAll, List.foldl_append]
  rfl

/-- The first declaration without a name is an error; otherwise all are put. -/
theorem declareAll_eq (s : Store) (project : Int) (ds : List Declaration) :
    s.declareAll project ds =
      match ds.find? isBlank with
      | some d => .error (.blankName d.kind)
      | none => .ok (s.putAll project ds) := by
  induction ds generalizing s with
  | nil => rfl
  | cons d ds ih =>
    rw [declareAll, List.foldlM_cons, declare_eq, List.find?_cons]
    cases isBlank d with
    | true => rfl
    | false => exact ih (s.put (declared project s.nextId d)).1

/-- Writes the objects of declarations into the store itself, up to the first declaration without a name. -/
def declareEach (s : Store) (project : Int) : List Declaration → Store × Option Error
  | [] => (s, none)
  | d :: ds =>
    match s.declare project d with
    | .ok (s', _) => s'.declareEach project ds
    | .error e => (s, some e)

/-- Takes back what was written if it ended in an error. -/
def rollback (s : Store) : Store × Option Error → Store × Option Error
  | (s', none) => (s', none)
  | (_, some e) => (s, some e)

/-- What stands before the first declaration without a name has been written by then. -/
theorem declareEach_eq (s : Store) (project : Int) (ds : List Declaration) :
    s.declareEach project ds =
      (s.putAll project (ds.takeWhile (!isBlank ·)), (ds.find? isBlank).map fun d => .blankName d.kind) := by
  induction ds generalizing s with
  | nil => rfl
  | cons d ds ih =>
    rw [declareEach, declare_eq, List.find?_cons, List.takeWhile_cons]
    cases isBlank d with
    | true => rfl
    | false => exact ih (s.put (declared project s.nextId d)).1

/-- Declarations count all together or not at all, as if those that were written had been taken back. -/
theorem perform_declareAll (s : Store) (project : Int) (ds : List Declaration) :
    s.perform (.declareAll project ds) = s.rollback (s.declareEach project ds) := by
  rw [declareEach_eq, perform, declareAll_eq]
  cases hblank : ds.find? isBlank with
  | some d => rfl
  | none =>
    have hall : ds.takeWhile (!isBlank ·) = ds :=
      List.takeWhile_eq_self_iff.2 fun d hd => by simpa using List.find?_eq_none.1 hblank d hd
    rw [hall]
    rfl

theorem perform_declare (s : Store) (project : Int) (d : Declaration) :
    s.perform (.declare project d) = s.perform (.declareAll project [d]) := by
  rw [perform, perform, declareAll, List.foldlM_cons]
  cases s.declare project d <;> rfl

/-! ### What declarations make of a store -/

/-- The object that is put has the annotation and the definition that it was put with. -/
theorem exists_mem_put (s : Store) (o : Object) :
    ∃ o' ∈ (s.put o).1.objects, o'.key = o.key ∧ o'.criticality = o.criticality ∧ o'.definition = o.definition := by
  rw [put_objects]
  by_cases hknown : o.key ∈ s.objects.map Object.key
  · obtain ⟨known, hmem, hkey⟩ := List.mem_map.1 hknown
    have hover : overwrite o known = { o with id := known.id } := if_pos (sameObject_iff.2 hkey.symm)
    refine ⟨overwrite o known, List.mem_append_left _ (List.mem_map_of_mem hmem), ?_⟩
    rw [hover]
    exact ⟨rfl, rfl, rfl⟩
  · rw [if_neg hknown]
    exact ⟨o, List.mem_append_right _ (List.mem_singleton_self o), rfl, rfl, rfl⟩

/-- All other objects stay as they are. -/
theorem mem_put_of_key_ne {o other : Object} (h : o.key ≠ other.key) (hmem : other ∈ s.objects) :
    other ∈ (s.put o).1.objects := by
  rw [put_objects]
  exact List.mem_append_left _ (List.mem_map.2 ⟨other, hmem, overwrite_of_key_ne h⟩)

theorem filter_put (s : Store) {o : Object} {p : Int × ObjectKind × String × String → Bool} (h : p o.key = false) :
    ((s.put o).1.objects.filter fun other => p other.key) = s.objects.filter fun other => p other.key := by
  have hkeys : (fun other : Object => p (overwrite o other).key) = fun other => p other.key :=
    funext fun other => by rw [key_overwrite]
  have hnew : ((if o.key ∈ s.objects.map Object.key then [] else [o]).filter fun other => p other.key) = [] := by
    split <;> simp [h]
  rw [put_objects, List.filter_append, hnew, List.append_nil, List.filter_map]
  show ((s.objects.filter fun other => p (overwrite o other).key).map (overwrite o)) = _
  rw [hkeys]
  refine (List.map_congr_left fun other hother => overwrite_of_key_ne fun heq => ?_).trans (List.map_id _)
  have hkept := (List.mem_filter.1 hother).2
  rw [← heq, h] at hkept
  exact absurd hkept (by simp)

/-- What declarations that all have a name make of a store. -/
structure Declares (s : Store) (project : Int) (ds : List Declaration) (s' : Store) : Prop where
  /-- Of several declarations of an object the last one counts. -/
  last_counts : ∀ d ∈ ds, ∃ last, ds.reverse.find? (fun e => keyOf project e = keyOf project d) = some last ∧
    ∃ o ∈ s'.objects, o.key = keyOf project d ∧
      o.criticality = last.criticality.map (fun level => Criticality.clamp level) ∧ o.definition = last.definition
  others_eq : (s'.objects.filter fun o => o.key ∉ ds.map (keyOf project)) =
    s.objects.filter fun o => o.key ∉ ds.map (keyOf project)
  edges_eq : s'.edges = s.edges

theorem filter_putAll (s : Store) {p : Int × ObjectKind × String × String → Bool}
    (h : ∀ d ∈ ds, p (keyOf project d) = false) :
    ((s.putAll project ds).objects.filter fun o => p o.key) = s.objects.filter fun o => p o.key := by
  induction ds generalizing s with
  | nil => rfl
  | cons d ds ih =>
    obtain ⟨hd, hds⟩ := List.forall_mem_cons.1 h
    exact (ih _ hds).trans (filter_put s hd)

theorem edges_putAll (s : Store) (project : Int) (ds : List Declaration) : (s.putAll project ds).edges = s.edges := by
  induction ds generalizing s with
  | nil => rfl
  | cons d ds ih => exact (ih _).trans (put_edges s _)

/-- The object of a declaration is as the last declaration of it says. -/
theorem last_counts_putAll (s : Store) (project : Int) (ds : List Declaration) :
    ∀ d ∈ ds, ∃ last, ds.reverse.find? (fun e => keyOf project e = keyOf project d) = some last ∧
      ∃ o ∈ (s.putAll project ds).objects, o.key = keyOf project d ∧
        o.criticality = last.criticality.map (fun level => Criticality.clamp level) ∧
        o.definition = last.definition := by
  induction ds using List.reverseRecOn with
  | nil => exact fun d hd => absurd hd List.not_mem_nil
  | append_singleton ds new ih =>
    intro d hd
    rw [putAll_append_singleton, List.reverse_append, List.reverse_singleton, List.singleton_append, List.find?_cons]
    by_cases hnew : keyOf project new = keyOf project d
    · obtain ⟨o, ho, hkey, hcriticality, hdefinition⟩ :=
        exists_mem_put (s.putAll project ds) (declared project (s.putAll project ds).nextId new)
      refine ⟨new, by simp [hnew], o, ho, hkey.trans hnew, ?_, hdefinition⟩
      exact hcriticality
    · have hmem : d ∈ ds := by
        rcases List.mem_append.1 hd with hd | hd
        · exact hd
        · exact absurd (congrArg (keyOf project) (List.mem_singleton.1 hd).symm) hnew
      obtain ⟨last, hlast, o, ho, hkey, hrest⟩ := ih d hmem
      refine ⟨last, by simpa [hnew] using hlast, o, mem_put_of_key_ne ?_ ho, hkey, hrest⟩
      rwa [key_declared, hkey]

theorem declares_putAll (s : Store) (project : Int) (ds : List Declaration) :
    s.Declares project ds (s.putAll project ds) where
  last_counts := s.last_counts_putAll project ds
  others_eq := filter_putAll (p := fun key => key ∉ ds.map (keyOf project)) s fun d hd => by
    simpa using ⟨d, hd, rfl⟩
  edges_eq := s.edges_putAll project ds

/-! ### Any requests -/

/-- Whatever was asked of a store, its state is sound, and it has kept all objects. A declaration without a name, alone
or among others, leaves the state exactly as it is; if all have a name, they are written. -/
theorem run_empty_sound (requests : List Request) :
    let s := Store.empty.run requests
    s.Sound ∧
    (∀ more, ∀ o ∈ s.objects, ∃ o' ∈ (s.run more).objects, o'.id = o.id ∧ o'.key = o.key) ∧
    (∀ project ds, (∃ d ∈ ds, Text.trim d.name = "") →
      ∃ d ∈ ds, Text.trim d.name = "" ∧ s.perform (.declareAll project ds) = (s, some (.blankName d.kind))) ∧
    (∀ project d, Text.trim d.name = "" → s.perform (.declare project d) = (s, some (.blankName d.kind))) ∧
    (∀ project ds, s.perform (.declareAll project ds) = s.rollback (s.declareEach project ds)) ∧
    ∀ project ds, (∀ d ∈ ds, Text.trim d.name ≠ "") →
      ∃ s', s.perform (.declareAll project ds) = (s', none) ∧ s.Declares project ds s' := by
  intro s
  have hblank (d : Declaration) : isBlank d ↔ Text.trim d.name = "" := String.isEmpty_iff
  have hfails {project : Int} {ds : List Declaration} {d : Declaration} (h : ds.find? isBlank = some d) :
      s.perform (.declareAll project ds) = (s, some (.blankName d.kind)) := by
    rw [perform, declareAll_eq, h]
    rfl
  refine ⟨(Reachable.empty.run requests).sound, fun more o ho => exists_same_run more ho, ?_, ?_,
    s.perform_declareAll, ?_⟩
  · rintro project ds ⟨d, hd, hname⟩
    have hsome : (ds.find? isBlank).isSome := List.find?_isSome.2 ⟨d, hd, (hblank d).2 hname⟩
    obtain ⟨first, hfirst⟩ := Option.isSome_iff_exists.1 hsome
    exact ⟨first, List.mem_of_find?_eq_some hfirst, (hblank first).1 (List.find?_some hfirst), hfails hfirst⟩
  · intro project d hname
    rw [perform_declare]
    exact hfails (List.find?_cons_of_pos ((hblank d).2 hname))
  · intro project ds hnames
    have hnone : ds.find? isBlank = none :=
      List.find?_eq_none.2 fun d hd hd' => hnames d hd ((hblank d).1 hd')
    refine ⟨s.putAll project ds, ?_, s.declares_putAll project ds⟩
    rw [perform, declareAll_eq, hnone]
    rfl

/-- Two declarations of one table, which differ in blanks only. -/
def repeated : List Declaration :=
  [⟨.table, none, " Users ", some 9, none⟩, ⟨.table, some " ", "Users", some 0, none⟩]

/-- A view, and a table without a name. -/
def unnamed : List Declaration :=
  [⟨.view, some "dbo", "Active", none, some "SELECT * FROM Users"⟩, ⟨.table, none, " ", none, none⟩]

/-- The second declaration of the table counts, and the view is written and taken back. -/
theorem run_empty_sound_repeated :
    let s := Store.empty.run [.declareAll 1 repeated, .declareAll 1 unnamed]
    s.Sound ∧ s = ⟨[⟨1, 1, .table, "", "Users", some 1, none⟩], []⟩ ∧
      (s.declareEach 1 unnamed).1.objects.length = 2 ∧
      s.perform (.declareAll 1 unnamed) = (s, some (.blankName .table)) := by
  intro s
  obtain ⟨hsound, _, hfails, _⟩ := run_empty_sound [.declareAll 1 repeated, .declareAll 1 unnamed]
  have hlast : (⟨.table, none, " ", none, none⟩ : Declaration) ∈ unnamed :=
    List.mem_cons_of_mem _ (List.mem_singleton_self _)
  obtain ⟨d, hd, hname, hperform⟩ := hfails 1 unnamed ⟨_, hlast, by decide +kernel⟩
  refine ⟨hsound, by decide +kernel, by decide +kernel, ?_⟩
  rcases List.mem_cons.1 hd with rfl | hd
  · exact absurd hname (by decide +kernel)
  · rw [List.mem_singleton.1 hd] at hperform
    exact hperform

end Store

end ChangeImpact
