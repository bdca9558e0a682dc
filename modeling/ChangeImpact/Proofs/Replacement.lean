import ChangeImpact.Store
import Mathlib.Data.List.Dedup
import Mathlib.Data.List.Perm.Basic

/-!
# What a replacement of edges leaves behind

Edges are replaced by taking out those of one source after the other and putting in one row after the other, each unless
the project has an edge with its key by then (`replaceEach`).  One equation for each of the two loops
(`foldl_clearSource`, `foldl_insertRow`) says that this is what `replace` does at once: `replaceEach_eq`.

So the edges of the cleared sources are the rows, the first of each key, and all other edges stay; the same replacement
finds just that and does it again: `replace_replaces`.
-/

namespace ChangeImpact.Store

variable {s : Store} {project : Int} {sources : List Entity} {rows : List Edge}

/-! ### One source after the other -/

/-- Takes out the edges of a source. -/
def clearSource (project : Int) (edges : List Edge) (source : Entity) : List Edge :=
  edges.filter fun e => !(e.project = project && e.source = source)

theorem foldl_clearSource (project : Int) (edges : List Edge) (sources : List Entity) :
    sources.foldl (clearSource project) edges =
      edges.filter fun e => !(e.project = project && sources.contains e.source) := by
  induction sources generalizing edges with
  | nil => simp
  | cons source sources ih =>
    rw [List.foldl_cons, ih, clearSource, List.filter_filter]
    refine List.filter_congr fun e _ => ?_
    rw [List.contains_cons, Bool.and_or_distrib_left, Bool.not_or, Bool.and_comm]
    rfl

/-! ### One row after the other -/

/-- The row as an edge of the project. -/
def owned (project : Int) (row : Edge) : Edge :=
  { row with project := project }

@[simp] theorem key_owned (project : Int) (row : Edge) : (owned project row).key = row.key := rfl

/-- Puts in a row, unless the project has its edge by then, and counts the rows that were put in. -/
def insertRow (project : Int) (state : List Edge × Nat) (row : Edge) : List Edge × Nat :=
  if state.1.any fun e => e.project = project && e.key = row.key then state
  else (state.1 ++ [owned project row], state.2 + 1)

/-- The keys of the edges of a project. -/
def keysOf (project : Int) (edges : List Edge) : List (Entity × Entity × Usage) :=
  (edges.filter (·.project = project)).map Edge.key

theorem keysOf_append_owned (project : Int) (edges : List Edge) (row : Edge) :
    keysOf project (edges ++ [owned project row]) = keysOf project edges ++ [row.key] := by
  simp [keysOf, owned, Edge.key]

/-- The rows put in are the first of each key that the project did not have. -/
theorem foldl_insertRow (project : Int) (edges : List Edge) (count : Nat) (rows : List Edge) :
    rows.foldl (insertRow project) (edges, count) =
      (edges ++ distinctBy Edge.key (keysOf project edges) (rows.map (owned project)),
        count + (distinctBy Edge.key (keysOf project edges) (rows.map (owned project))).length) := by
  induction rows generalizing edges count with
  | nil => simp [distinctBy]
  | cons row rows ih =>
    have hknown : (edges.any fun e => e.project = project && e.key = row.key) =
        (keysOf project edges).contains row.key := by
      rw [Bool.eq_iff_iff, List.any_eq_true, List.contains_iff_mem, keysOf, List.mem_map]
      simp only [List.mem_filter, Bool.and_eq_true, decide_eq_true_eq, and_assoc]
    rw [List.foldl_cons, insertRow, List.map_cons, distinctBy, key_owned, hknown]
    by_cases hmem : (keysOf project edges).contains row.key = true
    · rw [if_pos hmem, if_pos hmem, ih]
    · rw [if_neg hmem, if_neg hmem, ih, keysOf_append_owned]
      have hseen : distinctBy Edge.key (keysOf project edges ++ [row.key]) (rows.map (owned project)) =
          distinctBy Edge.key (row.key :: keysOf project edges) (rows.map (owned project)) :=
        distinctBy_congr (fun k => by simp [or_comm]) _
      simp only [hseen, List.append_assoc, List.singleton_append, List.length_cons, Prod.mk.injEq, true_and]
      omega

/-! ### Both -/

/-- Takes out the edges of the sources, and of the sources of the rows, one source after the other, and puts in the rows
one after the other. -/
def replaceEach (s : Store) (project : Int) (sources : List Entity) (rows : List Edge) : Store × Nat :=
  let cleared := (sources ++ rows.map Edge.source).foldl (clearSource project) s.edges
  let (edges, count) := rows.foldl (insertRow project) (cleared, 0)
  ({ s with edges := edges }, count)

/-- The edge is the project's and comes from a source that is cleared. -/
def isCleared (project : Int) (sources : List Entity) (rows : List Edge) (e : Edge) : Bool :=
  e.project = project && (sources ++ rows.map Edge.source).contains e.source

/-- The edges that are written: of each key the first row. -/
def written (project : Int) (rows : List Edge) : List Edge :=
  distinctBy Edge.key [] (rows.map (owned project))

theorem isCleared_iff {e : Edge} :
    isCleared project sources rows e ↔ e.project = project ∧ e.source ∈ sources ++ rows.map Edge.source := by
  rw [isCleared, Bool.and_eq_true, decide_eq_true_eq, List.contains_iff_mem]

theorem replace_eq (s : Store) (project : Int) (sources : List Entity) (rows : List Edge) :
    s.replace project sources rows =
      (⟨s.objects, (s.edges.filter fun e => !isCleared project sources rows e) ++ written project rows⟩,
        (written project rows).length) := rfl

theorem mem_written {e : Edge} :
    e ∈ written project rows ↔ ∃ row, rows.find? (·.key == e.key) = some row ∧ owned project row = e := by
  rw [written, mem_distinctBy, and_iff_right List.not_mem_nil, List.find?_map, Option.map_eq_some_iff]
  rfl

theorem isCleared_of_mem_written (sources : List Entity) {e : Edge} (he : e ∈ written project rows) :
    isCleared project sources rows e := by
  obtain ⟨row, hrow, rfl⟩ := mem_written.1 he
  have hsource : row.source ∈ rows.map Edge.source := List.mem_map_of_mem (List.mem_of_find?_eq_some hrow)
  exact isCleared_iff.2 ⟨rfl, List.mem_append_right _ hsource⟩

/-- No row finds its edge among those that are left, since its source was cleared. -/
theorem replaceEach_eq (s : Store) (project : Int) (sources : List Entity) (rows : List Edge) :
    s.replaceEach project sources rows = s.replace project sources rows := by
  have hnew : distinctBy Edge.key (keysOf project (s.edges.filter fun e => !isCleared project sources rows e))
      (rows.map (owned project)) = written project rows := by
    rw [distinctBy_eq_filter]
    refine List.filter_eq_self.2 fun e he => ?_
    rw [Bool.not_eq_true', ← Bool.not_eq_true, List.contains_iff_mem, keysOf, List.mem_map]
    rintro ⟨kept, hkept, hkey⟩
    obtain ⟨hkept, hproject⟩ := List.mem_filter.1 hkept
    have hsource : kept.source = e.source := congrArg Prod.fst hkey
    have hcleared := (isCleared_iff.1 (isCleared_of_mem_written sources he)).2
    have hkept : ¬ isCleared project sources rows kept := by simpa using (List.mem_filter.1 hkept).2
    exact hkept (isCleared_iff.2 ⟨of_decide_eq_true hproject, hsource ▸ hcleared⟩)
  rw [replaceEach, foldl_clearSource, foldl_insertRow, replace_eq, ← hnew]
  simp only [isCleared, Nat.zero_add]

/-! ### What is left -/

/-- The edges of the project from the cleared sources. -/
theorem filter_isCleared_replace (s : Store) (project : Int) (sources : List Entity) (rows : List Edge) :
    (s.replace project sources rows).1.edges.filter (isCleared project sources rows) = written project rows := by
  have hall : (written project rows).filter (isCleared project sources rows) = written project rows :=
    List.filter_eq_self.2 fun e he => isCleared_of_mem_written sources he
  rw [replace_eq, List.filter_append, List.filter_filter, hall]
  simp

/-- All other edges. -/
theorem filter_not_isCleared_replace (s : Store) (project : Int) (sources : List Entity) (rows : List Edge) :
    ((s.replace project sources rows).1.edges.filter fun e => !isCleared project sources rows e) =
      s.edges.filter fun e => !isCleared project sources rows e := by
  have hnone : ((written project rows).filter fun e => !isCleared project sources rows e) = [] :=
    List.filter_eq_nil_iff.2 fun e he => by simp [isCleared_of_mem_written sources he]
  rw [replace_eq, List.filter_append, List.filter_filter, hnone, List.append_nil]
  simp only [Bool.and_self]

theorem nodup_written (project : Int) (rows : List Edge) : ((written project rows).map Edge.key).Nodup :=
  nodup_map_distinctBy _ _ _

theorem length_written (project : Int) (rows : List Edge) :
    (written project rows).length = (rows.map Edge.key).dedup.length := by
  have hmem (k : Entity × Entity × Usage) :
      k ∈ (written project rows).map Edge.key ↔ k ∈ (rows.map Edge.key).dedup := by
    rw [written, mem_map_distinctBy, and_iff_left List.not_mem_nil, List.map_map, List.mem_dedup]
    rfl
  rw [← List.length_map Edge.key]
  exact ((List.perm_ext_iff_of_nodup (nodup_written project rows) (List.nodup_dedup _)).2 hmem).length_eq

/-- What a replacement of the edges of some sources by rows makes of a store. -/
structure Replaces (s : Store) (project : Int) (sources : List Entity) (rows : List Edge) : Prop where
  /-- The edges of the project from the cleared sources are the first rows of their keys. -/
  mem_cleared : ∀ e, (e ∈ (s.replace project sources rows).1.edges ∧ isCleared project sources rows e) ↔
    ∃ row, rows.find? (·.key == e.key) = some row ∧ e = { row with project := project }
  /-- None of them comes twice. -/
  nodup_keys : (((s.replace project sources rows).1.edges.filter (isCleared project sources rows)).map Edge.key).Nodup
  /-- All other edges stay, also those of other projects. -/
  other_edges : ((s.replace project sources rows).1.edges.filter fun e => !isCleared project sources rows e) =
    s.edges.filter fun e => !isCleared project sources rows e
  objects : (s.replace project sources rows).1.objects = s.objects
  count : (s.replace project sources rows).2 = (rows.map Edge.key).dedup.length
  /-- The same replacement again changes nothing, and gives the same number. -/
  again : (s.replace project sources rows).1.replace project sources rows = s.replace project sources rows
  /-- Source by source and row by row, the same comes out. -/
  each : s.replaceEach project sources rows = s.replace project sources rows

theorem replace_replaces (s : Store) (project : Int) (sources : List Entity) (rows : List Edge) :
    s.Replaces project sources rows where
  mem_cleared := by
    intro e
    rw [← List.mem_filter, filter_isCleared_replace, mem_written]
    simp only [owned, eq_comm]
  nodup_keys := by
    rw [filter_isCleared_replace]
    exact nodup_written project rows
  other_edges := filter_not_isCleared_replace s project sources rows
  objects := rfl
  count := length_written project rows
  again := by
    rw [replace_eq (s.replace project sources rows).1, filter_not_isCleared_replace]
    rfl
  each := replaceEach_eq s project sources rows

/-- Two rows for one edge: the first one counts.  The third is for a source that is not among those given, and edges of
other sources and projects stay. -/
example :
    let stored : List Edge :=
      [⟨1, ⟨.procedure, 2⟩, ⟨.table, 1⟩, .delete, 1⟩, ⟨1, ⟨.procedure, 4⟩, ⟨.table, 1⟩, .select, 1⟩,
        ⟨2, ⟨.procedure, 2⟩, ⟨.table, 1⟩, .delete, 1⟩]
    let rows : List Edge :=
      [⟨1, ⟨.procedure, 2⟩, ⟨.table, 1⟩, .select, 1⟩, ⟨7, ⟨.procedure, 2⟩, ⟨.table, 1⟩, .select, 1 / 2⟩,
        ⟨1, ⟨.procedure, 3⟩, ⟨.procedure, 2⟩, .exec, 1⟩]
    (⟨[], stored⟩ : Store).replace 1 [⟨.procedure, 2⟩] rows =
      (⟨[], [⟨1, ⟨.procedure, 4⟩, ⟨.table, 1⟩, .select, 1⟩, ⟨2, ⟨.procedure, 2⟩, ⟨.table, 1⟩, .delete, 1⟩,
        ⟨1, ⟨.procedure, 2⟩, ⟨.table, 1⟩, .select, 1⟩, ⟨1, ⟨.procedure, 3⟩, ⟨.procedure, 2⟩, .exec, 1⟩]⟩, 2) := by
  decide +kernel

end ChangeImpact.Store
