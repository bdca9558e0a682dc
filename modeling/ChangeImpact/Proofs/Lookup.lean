import ChangeImpact.Proofs.Integrity
import Mathlib.Data.List.Find

/-!
# Two ways to look a name up

The user of a catalog searches for an object by name (`Store.find?`), and the references that are extracted from
definitions are resolved by name (`Resolution.NameIndex.lookup?`).  Where the two differ, the edges lead to another object
than the one that is analyzed.  For a project with tables only, both are reduced to searches among the tables of the
name, in the order of their numbers (`Store.called`):

* a reference first looks for one without a schema, then for one in the default schema, and then takes the first; with
  the default schema in front of the name it does the same, and with another schema it looks there
  (`Store.targets_eq_resolved`);
* the search never prefers an object without a schema, and with the default schema in front of the name it takes no
  object of any other schema (`Store.find?_eq`).

So they agree on names in a schema other than the default one, and on other names if no object without a schema gets in
between (`Store.targets_eq_find?_iff`).  Only a U+0000 in the text tells them apart as well, since the search compares
what is in front of it.
-/

namespace ChangeImpact

open Catalog (Object Entry defaultSchema qualifiedName bareName)
open Resolution (NameIndex Filed Match)
open Text

/-! ### Name indices -/

namespace Resolution.NameIndex

theorem found_byKey? (index : NameIndex) (key : String) :
    (index.byKey? key).map Match.found = index.find? (·.key == key) := by
  rw [byKey?, Option.map_map]
  exact Option.map_id' ..

/-- Of several candidates the first in the default schema is found, or just the first. -/
theorem found_byName? (index : NameIndex) (name : String) :
    (index.byName? name).map Match.found =
      ((index.candidates name).find? Filed.inDefaultSchema).or (index.candidates name).head? := by
  rw [byName?]
  rcases index.candidates name with _ | ⟨first, _ | ⟨second, others⟩⟩
  · rfl
  · cases h : first.inDefaultSchema <;> simp [h]
  · show some (((first :: second :: others).find? Filed.inDefaultSchema).getD first) = _
    cases (first :: second :: others).find? Filed.inDefaultSchema <;> rfl

/-- The three places in which a name is looked for. -/
theorem found_lookup? (index : NameIndex) (name : String) :
    (index.lookup? name).map Match.found =
      (index.find? (·.key == name)).or
        ((if name.toList.contains '.' then none
          else ((index.candidates name).find? Filed.inDefaultSchema).or (index.candidates name).head?).or
          (index.find? (·.key == qualifiedName defaultSchema name))) := by
  rw [lookup?, Option.orElse_eq_orElse, Option.orElse_eq_or, Option.orElse_eq_or,
    Option.map_or, Option.map_or, apply_ite (Option.map Match.found), found_byKey?, found_byKey?, found_byName?]
  rfl

end Resolution.NameIndex

namespace Store

variable {s : Store} {project : Int} {o : Object} {name : String}

/-! ### The index of a project with tables only -/

/-- The catalog of a project holds only tables, whose names and schemas are ASCII without points. -/
def HoldsPlainTables (s : Store) (project : Int) : Prop :=
  ∀ o ∈ s.objectsOf project, o.kind = .table ∧ IsPlain o.schema ∧ IsPlain o.name

/-- An object as the resolver files it among the tables. -/
def filed (o : Object) : Filed :=
  .ofEntry false o.entry

theorem tables_resolver (hs : Reachable s) (ht : s.HoldsPlainTables project) :
    (s.resolver project).tables = (s.objectsOf project).map filed := by
  have hall : (s.objectsOf project).filter ((ObjectKind.family .table).contains ·.kind) = s.objectsOf project :=
    List.filter_eq_self.2 fun o ho => by rw [(ht o ho).1]; rfl
  have hsorted : ((s.objectsOf project).map Object.entry).Pairwise fun a b => a.entity.id ≤ b.entity.id := by
    have hids := hs.sorted_ids
    rw [List.pairwise_map] at hids ⊢
    exact (hids.sublist List.filter_sublist).imp Int.le_of_lt
  show NameIndex.ofEntries false (s.entriesOf project _) = _
  rw [entriesOf, hall, NameIndex.ofEntries, sortBy_eq_self (by simpa using hsorted), List.map_map]
  rfl

section

variable (hc : o.IsClean)
include hc

theorem schema_filed : (filed o).schema = if o.schema = "" then none else some (Text.lower o.schema) := by
  by_cases hempty : o.schema = ""
  · simp [filed, Filed.ofEntry, Object.entry, Object.schema?, hempty]
  · have hschema : o.entry.schema.map trim = some o.schema := by
      simp [Object.entry, Object.schema?, hempty, hc.trim_schema]
    rw [filed, Filed.ofEntry, hschema, if_neg hempty]
    dsimp only
    split
    · rename_i heq
      exact absurd (Option.some.inj heq) hempty
    · rename_i heq
      exact absurd heq (by simp)
    · rename_i heq
      rw [Option.some.inj heq]

theorem inDefaultSchema_filed (hne : o.schema ≠ "") :
    (filed o).inDefaultSchema = sameAsciiCase o.schema defaultSchema := by
  have hschema : (filed o).entry.schema = some o.schema := by
    simp [filed, Filed.ofEntry, Object.entry, Object.schema?, hne]
  rw [Filed.inDefaultSchema, Filed.shownSchema, hschema]
  simp only [not_allBlank hc.trim_schema hne, Bool.false_eq_true, if_false]

variable (hs : IsPlain o.schema) (hn : IsPlain o.name)
include hs hn

theorem key_filed : (filed o).key = qualifiedName (asciiLower o.schema) (asciiLower o.name) := by
  have hname : (filed o).name = asciiLower o.name := lower_of_ascii fun c hmem => (hn c hmem).1
  have hlower : Text.lower o.schema = asciiLower o.schema := lower_of_ascii fun c hmem => (hs c hmem).1
  rw [Filed.key, schema_filed hc, hname]
  by_cases hempty : o.schema = ""
  · rw [if_pos hempty, asciiLower_eq_empty.2 hempty]
    rfl
  · rw [if_neg hempty, hlower, qualifiedName, if_neg (by simpa using mt asciiLower_eq_empty.1 hempty)]

end

/-! ### What the resolver finds -/

/-- The objects of the project that have a name, up to case. -/
def called (s : Store) (project : Int) (name : String) : List Object :=
  (s.objectsOf project).filter fun o => sameAsciiCase o.name name

/-- The object is in the default schema, up to case. -/
def inDefault (o : Object) : Bool :=
  sameAsciiCase o.schema defaultSchema

theorem find?_called (s : Store) (project : Int) (name : String) (p : Object → Bool) :
    (s.called project name).find? p = (s.objectsOf project).find? fun o => sameAsciiCase o.name name && p o := by
  rw [called, List.find?_filter]
  exact List.find?_congr fun o _ => by simp

theorem isClean_of_mem (hs : Reachable s) (ho : o ∈ s.objectsOf project) : o.IsClean :=
  hs.sound.clean o (List.mem_of_mem_filter ho)

section

variable (hs : Reachable s) (ht : s.HoldsPlainTables project)
include hs ht

/-- By a key the object is found that has the schema and the name which the key is made of. -/
theorem find?_key {schema key : String} (hkey : schema = "" → '.' ∉ key.toList) :
    ((s.objectsOf project).map filed).find? (·.key == qualifiedName schema key) =
      ((s.objectsOf project).find? fun o => asciiLower o.name == key && asciiLower o.schema == schema).map filed := by
  rw [List.find?_map]
  refine congrArg (Option.map filed) (List.find?_congr fun o ho => ?_)
  obtain ⟨_, hschema, hname⟩ := ht o ho
  rw [Bool.eq_iff_iff, Function.comp, key_filed (isClean_of_mem hs ho) hschema hname, beq_iff_eq,
    Catalog.qualifiedName_inj hschema.asciiLower hname.asciiLower hkey, Bool.and_eq_true, beq_iff_eq, beq_iff_eq, and_comm]

theorem candidates_filed (name : String) :
    NameIndex.candidates ((s.objectsOf project).map filed) (asciiLower name) =
      ((s.called project name).filter (·.schema ≠ "")).map filed := by
  rw [NameIndex.candidates, List.filter_map, called, List.filter_filter]
  refine congrArg (List.map filed) (List.filter_congr fun o ho => ?_)
  obtain ⟨_, _, hname⟩ := ht o ho
  have hlower : (filed o).name = asciiLower o.name := lower_of_ascii fun c hmem => (hname c hmem).1
  rw [Function.comp, schema_filed (isClean_of_mem hs ho), hlower]
  by_cases hempty : o.schema = "" <;> simp [hempty, sameAsciiCase]

/-- Under a name without a schema the resolver finds an object without a schema before one in the default schema, and
that before any other. -/
theorem found_lookup?_bare (hn : IsPlain name) :
    ((s.resolver project).tables.lookup? (asciiLower name)).map Match.found =
      (((s.called project name).find? (·.schema = "")).or
        (((s.called project name).find? inDefault).or (s.called project name).head?)).map filed := by
  have hpoint : '.' ∉ (asciiLower name).toList := hn.asciiLower
  have hfirst : ((s.objectsOf project).map filed).find? (·.key == asciiLower name) =
      ((s.called project name).find? (·.schema = "")).map filed := by
    rw [← Catalog.qualifiedName_empty (asciiLower name), find?_key hs ht fun _ => hpoint, find?_called]
    refine congrArg (Option.map filed) (List.find?_congr fun o _ => congrArg (_ && ·) ?_)
    rw [Bool.eq_iff_iff, beq_iff_eq, asciiLower_eq_empty, decide_eq_true_iff]
  have hlast : ((s.objectsOf project).map filed).find? (·.key == qualifiedName defaultSchema (asciiLower name)) =
      ((s.called project name).find? inDefault).map filed := by
    rw [find?_key hs ht fun hempty => absurd hempty (by decide), find?_called]
    simp only [inDefault, sameAsciiCase, Catalog.asciiLower_defaultSchema]
  have hdefault : (((s.called project name).filter (·.schema ≠ "")).map filed).find? Filed.inDefaultSchema =
      (((s.called project name).filter (·.schema ≠ "")).find? inDefault).map filed := by
    rw [List.find?_map]
    refine congrArg (Option.map filed) (List.find?_congr fun o ho => ?_)
    obtain ⟨ho, hne⟩ := List.mem_filter.1 ho
    exact inDefaultSchema_filed (isClean_of_mem hs (List.mem_of_mem_filter ho)) (by simpa using hne)
  rw [tables_resolver hs ht, NameIndex.found_lookup?, if_neg (by simpa using hpoint), hfirst, hlast,
    candidates_filed hs ht, hdefault, List.head?_map, ← Option.map_or, ← Option.map_or, ← Option.map_or]
  refine congrArg (Option.map filed) ?_
  cases hempty : (s.called project name).find? (·.schema = "") with
  | some o => rfl
  | none =>
    -- then all have a schema
    have hall : (s.called project name).filter (·.schema ≠ "") = s.called project name :=
      List.filter_eq_self.2 fun o ho => by simpa using List.find?_eq_none.1 hempty o ho
    rw [hall]
    cases (s.called project name).find? inDefault <;> cases (s.called project name).head? <;> rfl

/-- Under another schema the resolver finds an object of that schema. -/
theorem found_lookup?_qualified {schema : String} (hschema : schema ≠ "") (name : String) :
    ((s.resolver project).tables.lookup? (qualifiedName schema (asciiLower name))).map Match.found =
      ((s.called project name).find? fun o => asciiLower o.schema == schema).map filed := by
  have hpoint : (qualifiedName schema (asciiLower name)).toList.contains '.' = true := by
    rw [List.contains_iff_mem, Catalog.toList_qualifiedName hschema]
    exact List.mem_append_right _ List.mem_cons_self
  -- no name has a point, so none is found under the default schema in front of the key
  have hnone : ((s.objectsOf project).find? fun o =>
      asciiLower o.name == qualifiedName schema (asciiLower name) && asciiLower o.schema == defaultSchema) = none := by
    refine List.find?_eq_none.2 fun o ho => ?_
    obtain ⟨_, _, hname⟩ := ht o ho
    rw [Bool.and_eq_true, beq_iff_eq]
    intro heq
    refine hname.asciiLower ?_
    rw [heq.1]
    exact List.contains_iff_mem.1 hpoint
  rw [tables_resolver hs ht, NameIndex.found_lookup?, if_pos hpoint,
    find?_key hs ht fun hempty => absurd hempty hschema, find?_key hs ht fun hempty => absurd hempty (by decide), hnone,
    find?_called]
  simp [sameAsciiCase]

end

/-- The edge of a reference to a table leads to what is found under its normalized name. -/
theorem targets_resolve (resolver : Resolver) {r : Reference} (hkind : r.targetKind = .table) :
    (resolver.resolve [r]).edges.map Edge.target =
      ((resolver.tables.lookup? (Catalog.normalizedName r.targetName)).map Match.found).toList.map (·.entry.entity) := by
  have hlookup : resolver.lookup? r = resolver.tables.lookup? (Catalog.normalizedName r.targetName) := by
    rw [Resolver.lookup?, Resolver.index, hkind]
    rfl
  rw [← hlookup]
  cases h : resolver.lookup? r with
  | none => simp [Resolver.resolve, Resolver.edge?, h, distinctBy]
  | some m => simp [Resolver.resolve, Resolver.edge?, Resolver.edge, h, distinctBy]

/-! ### What the search by name finds -/

/-- The object is in a schema that is asked for, if one is. An object without a schema is also in the default one. -/
def isIn (schema : String) (o : Object) : Bool :=
  schema = "" || sameAsciiCase o.schema schema || (o.schema.isEmpty && sameAsciiCase schema defaultSchema)

theorem find?_eq {schema text : String} (ht : s.HoldsPlainTables project)
    (htext : bareName text = qualifiedName schema name) (hn : IsPlain name) (hschemaNul : '\x00' ∉ schema.toList)
    (hnul : '\x00' ∉ name.toList) :
    s.find? project (some .table) text =
      ((s.called project name).find? fun o => isIn schema o && inDefault o).or
        ((s.called project name).find? (isIn schema)) := by
  have hdefault : '\x00' ∉ defaultSchema.toList := by decide +kernel
  have hfound : ((s.objectsOf project).filter fun o =>
      goesBy (if schema = "" then none else some schema) name o && (some ObjectKind.table).all (· = o.kind)) =
        (s.called project name).filter (isIn schema) := by
    rw [called, List.filter_filter]
    refine List.filter_congr fun o ho => ?_
    rw [(ht o ho).1]
    by_cases hempty : schema = ""
    · simp [goesBy, isIn, hempty, sameNoCase_eq hnul, Bool.and_comm]
    · simp [goesBy, isIn, hempty, sameNoCase_eq hnul, sameNoCase_eq hschemaNul, sameNoCase_eq hdefault, Bool.and_comm]
  rw [find?, Catalog.splitName_of_bareName htext hn.period_not_mem]
  dsimp only
  rw [Option.orElse_eq_orElse, Option.orElse_eq_or, hfound, List.head?_filter, List.find?_filter]
  refine congrArg (Option.or · _) (List.find?_congr fun o _ => ?_)
  simp [inDefault, sameNoCase_eq hdefault]

/-! ### Both together -/

/-- What a reference to a table resolves to. -/
def resolved (s : Store) (project : Int) (schema name : String) : Option Object :=
  let found := s.called project name
  if Catalog.lookupSchema schema = "" then
    (found.find? (·.schema = "")).or ((found.find? inDefault).or found.head?)
  else found.find? fun o => asciiLower o.schema == Catalog.lookupSchema schema

theorem mem_of_mem_called (ho : o ∈ s.called project name) : o ∈ s.objectsOf project :=
  List.mem_of_mem_filter ho

theorem mem_of_resolved {schema : String} (h : s.resolved project schema name = some o) : o ∈ s.objectsOf project := by
  suffices hcalled : o ∈ s.called project name from mem_of_mem_called hcalled
  rw [resolved] at h
  split at h
  · rcases Option.or_eq_some_iff.1 h with h | ⟨_, h⟩
    · exact List.mem_of_find?_eq_some h
    · rcases Option.or_eq_some_iff.1 h with h | ⟨_, h⟩
      · exact List.mem_of_find?_eq_some h
      · exact List.mem_of_head? h
  · exact List.mem_of_find?_eq_some h

theorem mem_of_find? {kind : Option ObjectKind} {text : String} (h : s.find? project kind text = some o) :
    o ∈ s.objectsOf project := by
  rw [find?] at h
  dsimp only at h
  rw [Option.orElse_eq_orElse, Option.orElse_eq_or, Option.or_eq_some_iff] at h
  rcases h with h | ⟨_, h⟩
  · exact List.mem_of_mem_filter (List.mem_of_find?_eq_some h)
  · exact List.mem_of_mem_filter (List.mem_of_head? h)

theorem targets_eq_resolved (hs : Reachable s) (ht : s.HoldsPlainTables project) {schema : String} {r : Reference}
    (hkind : r.targetKind = .table) (htext : bareName r.targetName = qualifiedName schema name)
    (hschema : IsPlain schema) (hn : IsPlain name) (hne : name ≠ "") :
    ((s.resolver project).resolve [r]).edges.map Edge.target =
      (s.resolved project schema name).toList.map Object.entity := by
  have hfound : ((s.resolver project).tables.lookup? (Catalog.normalizedName r.targetName)).map Match.found =
      (s.resolved project schema name).map filed := by
    rw [Catalog.normalizedName_of_bareName htext hschema hn hne, resolved]
    by_cases hempty : Catalog.lookupSchema schema = ""
    · rw [if_pos hempty, hempty, Catalog.qualifiedName_empty]
      exact found_lookup?_bare hs ht hn
    · rw [if_neg hempty]
      exact found_lookup?_qualified hs ht hempty name
  rw [targets_resolve _ hkind, hfound]
  cases s.resolved project schema name <;> rfl

/-- An object in the default schema is not without a schema. -/
theorem schema_ne_of_inDefault (h : inDefault o) : o.schema ≠ "" := by
  intro hempty
  rw [inDefault, hempty] at h
  exact absurd h (by decide +kernel)

section

variable {found : List Object}

theorem find?_schemaless_eq_none : found.find? (·.schema = "") = none ↔ ∀ o ∈ found, o.schema ≠ "" := by
  simp

theorem find?_inDefault_eq_none : found.find? inDefault = none ↔ ∀ o ∈ found, ¬ inDefault o :=
  List.find?_eq_none

/-- An object without a schema and one in the default schema are not the same. -/
theorem ne_of_find? {a b : Object} (ha : found.find? (·.schema = "") = some a) (hb : found.find? inDefault = some b) :
    a ≠ b := by
  rintro rfl
  exact schema_ne_of_inDefault (List.find?_some hb) (by simpa using List.find?_some ha)

/-- Under a bare name the two differ in the objects without a schema, which the resolver prefers. -/
private theorem or_eq_iff_bare :
    (found.find? (·.schema = "")).or ((found.find? inDefault).or found.head?) = (found.find? inDefault).or found.head? ↔
      (∀ o ∈ found, o.schema ≠ "") ∨ (∀ o ∈ found, ¬ inDefault o) ∧ ∃ o ∈ found.head?, o.schema = "" := by
  rw [← find?_schemaless_eq_none, ← find?_inDefault_eq_none]
  cases ha : found.find? (·.schema = "") with
  | none => simp
  | some a =>
    cases hb : found.find? inDefault with
    | some b => simpa using ne_of_find? ha hb
    | none =>
      -- the first object without a schema is the first of all if that has none
      cases found with
      | nil => exact absurd ha (by simp)
      | cons first others =>
        rw [List.find?_cons] at ha
        by_cases hfirst : first.schema = ""
        · have heq : first = a := by simpa [hfirst] using ha
          subst heq
          simpa using hfirst
        · simp only [hfirst, decide_false] at ha
          have hne : a ≠ first := by
            rintro rfl
            exact hfirst (by simpa using List.find?_some ha)
          simpa [hfirst] using hne

/-- Under a name in the default schema they differ where there are objects of both kinds, and where there are only
others. -/
private theorem or_eq_iff_default :
    (found.find? (·.schema = "")).or ((found.find? inDefault).or found.head?) =
        (found.find? inDefault).or (found.find? (·.schema = "")) ↔
      ((∀ o ∈ found, o.schema ≠ "") ∨ ∀ o ∈ found, ¬ inDefault o) ∧
        (found = [] ∨ ∃ o ∈ found, o.schema = "" ∨ inDefault o) := by
  have hnone : (∃ o ∈ found, o.schema = "" ∨ inDefault o) ↔
      ¬ (found.find? (·.schema = "") = none ∧ found.find? inDefault = none) := by
    rw [find?_schemaless_eq_none, find?_inDefault_eq_none]
    simp only [← forall_and, ← not_or, not_forall, Classical.not_not, exists_prop]
  rw [hnone, ← find?_schemaless_eq_none, ← find?_inDefault_eq_none]
  cases ha : found.find? (·.schema = "") with
  | none => cases found.find? inDefault <;> simp
  | some a =>
    cases hb : found.find? inDefault with
    | none => simp
    | some b => simpa using ne_of_find? ha hb

end

section

variable (found : List Object) {schema : String}

/-- A bare name is searched for in all schemas. -/
theorem find?_isIn_bare :
    (found.find? fun o => isIn "" o && inDefault o).or (found.find? (isIn "")) =
      (found.find? inDefault).or found.head? := by
  have hall : isIn "" = fun _ => true := funext fun o => by simp [isIn]
  have hhead : found.find? (fun _ => true) = found.head? := by cases found <;> rfl
  simp only [hall, Bool.true_and, hhead]

/-- A name in the default schema is searched for there, and then among the objects without a schema. -/
theorem find?_isIn_default (hne : schema ≠ "") (hdefault : sameAsciiCase schema defaultSchema) :
    (found.find? fun o => isIn schema o && inDefault o).or (found.find? (isIn schema)) =
      (found.find? inDefault).or (found.find? (·.schema = "")) := by
  have hin (o : Object) : isIn schema o = (inDefault o || o.schema = "") := by
    have hsame : sameAsciiCase o.schema schema = inDefault o := by
      rw [inDefault, sameAsciiCase, sameAsciiCase, sameAsciiCase_iff.1 hdefault]
    have hempty : o.schema.isEmpty = decide (o.schema = "") := by
      rw [Bool.eq_iff_iff, String.isEmpty_iff, decide_eq_true_iff]
    simp [isIn, hne, hsame, hdefault, hempty]
  have hboth : (fun o => isIn schema o && inDefault o) = inDefault :=
    funext fun o => by rw [hin]; cases inDefault o <;> simp
  rw [hboth]
  cases hnone : found.find? inDefault with
  | some o => rfl
  | none =>
    refine congrArg (Option.or none) (List.find?_congr fun o ho => ?_)
    rw [hin, Bool.eq_false_iff.2 (find?_inDefault_eq_none.1 hnone o ho), Bool.false_or]

/-- A name in any other schema is searched for there. -/
theorem find?_isIn_other (hne : schema ≠ "") (hother : ¬ sameAsciiCase schema defaultSchema) :
    (found.find? fun o => isIn schema o && inDefault o).or (found.find? (isIn schema)) =
      found.find? fun o => sameAsciiCase o.schema schema := by
  have hin (o : Object) : isIn schema o = sameAsciiCase o.schema schema := by
    simp [isIn, hne, hother]
  have hnone : (found.find? fun o => isIn schema o && inDefault o) = none := by
    refine List.find?_eq_none.2 fun o _ => ?_
    rw [hin, Bool.and_eq_true, inDefault]
    rintro ⟨hsame, hdefault⟩
    exact hother (sameAsciiCase_iff.2 ((sameAsciiCase_iff.1 hsame).symm.trans (sameAsciiCase_iff.1 hdefault)))
  rw [hnone, Option.none_or]
  exact List.find?_congr fun o _ => hin o

end

/-- What a reference resolves to is what the search finds, except for bare names and names in the default schema that
objects without a schema have. -/
theorem resolved_eq_find?_iff {schema text : String} (ht : s.HoldsPlainTables project)
    (htext : bareName text = qualifiedName schema name) (hn : IsPlain name) (hschemaNul : '\x00' ∉ schema.toList)
    (hnul : '\x00' ∉ name.toList) :
    s.resolved project schema name = s.find? project (some .table) text ↔
      (schema = "" → (∀ o ∈ s.called project name, o.schema ≠ "") ∨
        (∀ o ∈ s.called project name, ¬ inDefault o) ∧ ∃ o ∈ (s.called project name).head?, o.schema = "") ∧
      (sameAsciiCase schema defaultSchema →
        ((∀ o ∈ s.called project name, o.schema ≠ "") ∨ ∀ o ∈ s.called project name, ¬ inDefault o) ∧
        (s.called project name = [] ∨ ∃ o ∈ s.called project name, o.schema = "" ∨ inDefault o)) := by
  rw [find?_eq ht htext hn hschemaNul hnul, resolved]
  generalize s.called project name = found
  by_cases hempty : schema = ""
  · subst hempty
    have hother : ¬ sameAsciiCase "" defaultSchema := by decide +kernel
    simp only [hother, Bool.false_eq_true, false_implies, and_true, true_implies]
    rw [find?_isIn_bare, if_pos (by decide +kernel)]
    exact or_eq_iff_bare
  · simp only [hempty, false_implies, true_and]
    by_cases hdefault : sameAsciiCase schema defaultSchema
    · have hlookup : Catalog.lookupSchema schema = "" := by
        rw [Catalog.lookupSchema, sameAsciiCase_iff.1 hdefault, Catalog.asciiLower_defaultSchema, if_pos rfl]
      simp only [hdefault, true_implies]
      rw [find?_isIn_default found hempty hdefault, if_pos hlookup]
      exact or_eq_iff_default
    · have hlookup : Catalog.lookupSchema schema = asciiLower schema :=
        if_neg fun heq => hdefault (sameAsciiCase_iff.2 (heq.trans Catalog.asciiLower_defaultSchema.symm))
      simp only [hdefault, Bool.false_eq_true, false_implies, iff_true]
      rw [find?_isIn_other found hempty hdefault, hlookup, if_neg (mt asciiLower_eq_empty.1 hempty)]
      rfl

/-- The objects of a project can be told from each other by kind and number. -/
theorem map_entity_inj (hs : Reachable s) {a b : Option Object} (ha : ∀ o ∈ a, o ∈ s.objectsOf project)
    (hb : ∀ o ∈ b, o ∈ s.objectsOf project) :
    a.toList.map Object.entity = b.toList.map Object.entity ↔ a = b := by
  refine ⟨fun h => ?_, fun h => h ▸ rfl⟩
  cases a with
  | none => cases b with
    | none => rfl
    | some b => exact absurd h (by simp)
  | some a => cases b with
    | none => exact absurd h (by simp)
    | some b =>
      have hid : a.id = b.id := congrArg Entity.id (List.head_eq_of_cons_eq h)
      have hmem {o : Object} (ho : o ∈ s.objectsOf project) : o ∈ s.objects := List.mem_of_mem_filter ho
      rw [List.inj_on_of_nodup_map hs.nodup_ids (hmem (ha a rfl)) (hmem (hb b rfl)) hid]

/-- A reference to a table and a search for a table by the same text lead to the same object, or both to none, if and
only if objects without a schema do not get in between. Under a bare name the reference prefers them to those in the
default schema and to those that come before them; under a name in the default schema it prefers them as well, and takes
any other object of the name if there is none of either kind. -/
theorem targets_eq_find?_iff (hs : Reachable s) (ht : s.HoldsPlainTables project) {schema : String} {r : Reference}
    (hkind : r.targetKind = .table) (htext : bareName r.targetName = qualifiedName schema name)
    (hschema : IsPlain schema) (hn : IsPlain name) (hne : name ≠ "") (hschemaNul : '\x00' ∉ schema.toList)
    (hnul : '\x00' ∉ name.toList) :
    ((s.resolver project).resolve [r]).edges.map Edge.target =
        (s.find? project (some .table) r.targetName).toList.map Object.entity ↔
      (schema = "" → (∀ o ∈ s.called project name, o.schema ≠ "") ∨
        (∀ o ∈ s.called project name, ¬ inDefault o) ∧ ∃ o ∈ (s.called project name).head?, o.schema = "") ∧
      (sameAsciiCase schema defaultSchema →
        ((∀ o ∈ s.called project name, o.schema ≠ "") ∨ ∀ o ∈ s.called project name, ¬ inDefault o) ∧
        (s.called project name = [] ∨ ∃ o ∈ s.called project name, o.schema = "" ∨ inDefault o)) := by
  rw [targets_eq_resolved hs ht hkind htext hschema hn hne,
    map_entity_inj hs (fun _ => mem_of_resolved) (fun _ => mem_of_find?)]
  exact resolved_eq_find?_iff ht htext hn hschemaNul hnul

/-- Three tables of one name in a project, in the default schema, without a schema and in another one; a table in that
other schema in a second project; and a table with a U+0000 in its name in a third one. -/
def namesakes : Store :=
  ⟨[⟨1, 1, .table, "dbo", "Users", none, none⟩, ⟨2, 1, .table, "", "Users", none, none⟩,
    ⟨3, 1, .table, "sales", "Users", none, none⟩, ⟨4, 2, .table, "sales", "Orders", none, none⟩,
    ⟨5, 3, .table, "", "a\x00b", none, none⟩], []⟩

theorem reachable_namesakes : Reachable namesakes := by
  have hfirst : Store.empty.declareAll 1
      [⟨.table, some "dbo", "Users", none, none⟩, ⟨.table, none, "Users", none, none⟩,
        ⟨.table, some "sales", "Users", none, none⟩] = .ok ⟨namesakes.objects.take 3, []⟩ := by rfl
  have hsecond : (⟨namesakes.objects.take 3, []⟩ : Store).declareAll 2 [⟨.table, some "sales", "Orders", none, none⟩] =
      .ok ⟨namesakes.objects.take 4, []⟩ := by rfl
  have hthird : (⟨namesakes.objects.take 4, []⟩ : Store).declareAll 3 [⟨.table, none, "a\x00b", none, none⟩] =
      .ok namesakes := by rfl
  exact ((Reachable.empty.step (.declareAll hfirst)).step (.declareAll hsecond)).step (.declareAll hthird)

/-- A reference to a table by a text. -/
def referenceTo (text : String) : Reference :=
  ⟨⟨.procedure, 10⟩, .table, text, .select⟩

/-- In a schema other than the default one, both lead to the table there. -/
theorem targets_eq_find?_namesakes :
    let r := referenceTo "sales.Users"
    namesakes.HoldsPlainTables 1 ∧ bareName r.targetName = qualifiedName "sales" "Users" ∧
      ((namesakes.resolver 1).resolve [r]).edges.map Edge.target = [⟨.table, 3⟩] ∧
      (namesakes.find? 1 (some .table) r.targetName).toList.map Object.entity = [⟨.table, 3⟩] := by
  intro r
  have ht : namesakes.HoldsPlainTables 1 := by
    unfold HoldsPlainTables
    decide +kernel
  have htext : bareName r.targetName = qualifiedName "sales" "Users" := by decide +kernel
  have hfind : (namesakes.find? 1 (some .table) r.targetName).toList.map Object.entity = [⟨.table, 3⟩] := by
    decide +kernel
  have hagree := targets_eq_find?_iff reachable_namesakes ht (r := r) rfl htext (by decide +kernel) (by decide +kernel)
    (by decide) (by decide +kernel) (by decide +kernel)
  rw [hfind] at hagree
  refine ⟨ht, htext, hagree.2 ⟨fun hempty => ?_, fun hdefault => ?_⟩, hfind⟩
  · exact absurd hempty (by decide)
  · exact absurd hdefault (by decide +kernel)

/-- Under a bare name, the search finds the table in the default schema and the reference leads to the one without a
schema. In the second project, only the reference leads to a table under a name in the default schema. In the third one,
only the search finds a table under a name that differs behind a U+0000. -/
theorem targets_ne_find?_namesakes :
    Reachable namesakes ∧ (∀ project ∈ [1, 2, 3], namesakes.HoldsPlainTables project) ∧
      ((namesakes.resolver 1).resolve [referenceTo "Users"]).edges.map Edge.target = [⟨.table, 2⟩] ∧
      (namesakes.find? 1 (some .table) "Users").map Object.entity = some ⟨.table, 1⟩ ∧
      ((namesakes.resolver 2).resolve [referenceTo "dbo.Orders"]).edges.map Edge.target = [⟨.table, 4⟩] ∧
      namesakes.find? 2 (some .table) "dbo.Orders" = none ∧
      ((namesakes.resolver 3).resolve [referenceTo "a\x00c"]).edges.map Edge.target = [] ∧
      (namesakes.find? 3 (some .table) "a\x00c").map Object.entity = some ⟨.table, 5⟩ := by
  refine ⟨reachable_namesakes, ?_, by decide +kernel, by decide +kernel, by decide +kernel, by decide +kernel,
    by decide +kernel, by decide +kernel⟩
  unfold HoldsPlainTables
  decide +kernel

end Store

end ChangeImpact
