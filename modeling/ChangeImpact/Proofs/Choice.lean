import ChangeImpact.Proofs.Batches
import ChangeImpact.Proofs.Folding
import ChangeImpact.Proofs.Lookup
import Mathlib.Data.List.Nodup

/-!
# Which entry a name stands for

The entries of a catalog may share numbers, schemas and names in any way, and they may come in any order.  What a
reference resolves to is said without an index (`Catalog.IsMeant`): of the entries with the best claim to the name, it
is one with the least number.  Where no two entries share a number there is only one such entry, whatever the order,
and it is found (`Resolver.resolvesToMeant_ofCatalog`).

* Schemas must be trimmed: schemas with blanks around them are filed without these, but shown with them.
* A name without a point is looked up with the default schema in front, too.  That finds tables without a schema whose
  own names begin with it (`Resolver.resolve_pointedTable`).
-/

namespace ChangeImpact

open Catalog (Entry defaultSchema qualifiedName)
open Resolution (NameIndex Filed Match)
open Text

/-! ### Entries -/

namespace Catalog

namespace Entry

/-- The schema as it is written, if there is more to it than blanks. -/
def writtenSchema? (e : Entry) : Option String :=
  e.schema.filter fun schema => !allBlank schema

/-- The schema that an entry counts as being in, in lower case. Without a written one, tables and views are in no
schema, and routines in the default one. -/
def effectiveSchema? (tableLike : Bool) (e : Entry) : Option String :=
  match e.writtenSchema? with
  | some schema => some (Text.lower schema)
  | none => if tableLike then none else some defaultSchema

/-- The name in lower case, with the schema in front if there is one. -/
def key (tableLike : Bool) (e : Entry) : String :=
  match e.effectiveSchema? tableLike with
  | some schema => s!"{schema}.{Text.lower e.name}"
  | none => Text.lower e.name

/-- No blanks stand around the schema. -/
def IsTrimmed (e : Entry) : Prop :=
  ∀ schema ∈ e.schema, trim schema = schema

instance (e : Entry) : Decidable e.IsTrimmed :=
  Option.decidableForallMem (p := fun schema => trim schema = schema) e.schema

/-- The entry is in a schema, and has the name. -/
def IsCalled (tableLike : Bool) (name : String) (e : Entry) : Prop :=
  (e.effectiveSchema? tableLike).isSome ∧ Text.lower e.name = name

/-- The entry is in the default schema, and has the name. -/
def IsCalledInDefault (tableLike : Bool) (name : String) (e : Entry) : Prop :=
  e.effectiveSchema? tableLike = some defaultSchema ∧ Text.lower e.name = name

instance (tableLike : Bool) (name : String) (e : Entry) : Decidable (e.IsCalled tableLike name) :=
  inferInstanceAs (Decidable (_ ∧ _))

instance (tableLike : Bool) (name : String) (e : Entry) : Decidable (e.IsCalledInDefault tableLike name) :=
  inferInstanceAs (Decidable (_ ∧ _))

theorem IsCalledInDefault.isCalled {tableLike : Bool} {name : String} {e : Entry}
    (h : e.IsCalledInDefault tableLike name) : e.IsCalled tableLike name :=
  ⟨by rw [h.1]; rfl, h.2⟩

end Entry

/-- The entry has the least number of those with a property. -/
structure IsFirst (entries : List Entry) (p : Entry → Prop) (e : Entry) : Prop where
  mem : e ∈ entries
  holds : p e
  least : ∀ other ∈ entries, p other → e.entity.id ≤ other.entity.id

/-- The entry that a normalized name means. -/
inductive IsMeant (tableLike : Bool) (entries : List Entry) (name : String) (e : Entry) : Prop
  /-- The name is the key of an entry. -/
  | key (first : IsFirst entries (·.key tableLike = name) e)
  /-- The name has no point, and is that of an entry in the default schema. -/
  | inDefault (noKey : ∀ other ∈ entries, other.key tableLike ≠ name) (noPoint : '.' ∉ name.toList)
      (first : IsFirst entries (Entry.IsCalledInDefault tableLike name) e)
  /-- The name has no point, and is that of entries in other schemas only. -/
  | inOther (noKey : ∀ other ∈ entries, other.key tableLike ≠ name) (noPoint : '.' ∉ name.toList)
      (noDefault : ∀ other ∈ entries, ¬ other.IsCalledInDefault tableLike name)
      (first : IsFirst entries (Entry.IsCalled tableLike name) e)
  /-- With the default schema in front, the name is the key of an entry. -/
  | keyInDefault (noKey : ∀ other ∈ entries, other.key tableLike ≠ name)
      (noBare : '.' ∉ name.toList → ∀ other ∈ entries, ¬ other.IsCalled tableLike name)
      (first : IsFirst entries (·.key tableLike = s!"{defaultSchema}.{name}") e)

/-! ### Filed entries -/

section

variable {tableLike : Bool} {e : Entry}

theorem allBlank_iff {schema : String} (h : trim schema = schema) : allBlank schema ↔ schema = "" := by
  constructor
  · intro hall
    by_contra hne
    rw [not_allBlank h hne] at hall
    cases hall
  · rintro rfl
    rfl

theorem writtenSchema?_eq_none (he : e.IsTrimmed) : e.writtenSchema? = none ↔ e.schema = none ∨ e.schema = some "" := by
  unfold Entry.writtenSchema?
  cases hschema : e.schema with
  | none => simp
  | some schema => simp [allBlank_iff (he schema hschema)]

theorem schema_of_writtenSchema? {schema : String} (h : e.writtenSchema? = some schema) : e.schema = some schema :=
  (Option.filter_eq_some_iff.1 h).1

theorem schema_ofEntry (he : e.IsTrimmed) :
    (Filed.ofEntry (!tableLike) e).schema = e.effectiveSchema? tableLike := by
  unfold Filed.ofEntry Entry.effectiveSchema?
  cases hwritten : e.writtenSchema? with
  | none =>
    rcases (writtenSchema?_eq_none he).1 hwritten with h | h <;> rw [h] <;> cases tableLike <;> rfl
  | some schema =>
    have hschema := schema_of_writtenSchema? hwritten
    have hne : schema ≠ "" := by
      rintro rfl
      rw [(writtenSchema?_eq_none he).2 (.inr hschema)] at hwritten
      cases hwritten
    rw [hschema, Option.map_some, he schema hschema]
    dsimp only
    split
    · rename_i heq
      exact absurd (Option.some.inj heq) hne
    · rename_i heq
      cases heq
    · rename_i heq
      rw [Option.some.inj heq]

theorem key_ofEntry (he : e.IsTrimmed) : (Filed.ofEntry (!tableLike) e).key = e.key tableLike := by
  rw [Filed.key, Entry.key, schema_ofEntry he]
  rfl

theorem lower_eq_defaultSchema {schema : String} :
    Text.lower schema = defaultSchema ↔ sameAsciiCase schema defaultSchema := by
  have hown : ∀ c ∈ defaultSchema.toList, IsOwnLower c := by
    show ∀ c ∈ ['d', 'b', 'o'], IsOwnLower c
    simp [IsOwnLower]
  rw [lower_eq_iff hown, sameAsciiCase_iff, asciiLower_defaultSchema]

theorem shownSchema_eq (f : Filed) : f.shownSchema = f.entry.writtenSchema?.getD defaultSchema := by
  unfold Filed.shownSchema Entry.writtenSchema?
  cases f.entry.schema with
  | none => rfl
  | some schema => cases h : allBlank schema <;> simp [Option.filter, h]

/-- Among the entries in a schema, the one shown as the default schema is the default schema. -/
theorem inDefaultSchema_ofEntry (hschema : (e.effectiveSchema? tableLike).isSome) :
    (Filed.ofEntry (!tableLike) e).inDefaultSchema ↔ e.effectiveSchema? tableLike = some defaultSchema := by
  rw [Filed.inDefaultSchema, shownSchema_eq]
  show sameAsciiCase (e.writtenSchema?.getD defaultSchema) defaultSchema ↔ _
  unfold Entry.effectiveSchema? at hschema ⊢
  cases hwritten : e.writtenSchema? with
  | none =>
    rw [hwritten] at hschema
    cases tableLike
    · exact iff_of_true (sameAsciiCase_iff.2 rfl) rfl
    · cases hschema
  | some schema =>
    show sameAsciiCase schema defaultSchema ↔ some (Text.lower schema) = some defaultSchema
    rw [← lower_eq_defaultSchema, Option.some_inj]

theorem isCalled_ofEntry (he : e.IsTrimmed) {name : String} :
    ((Filed.ofEntry (!tableLike) e).schema.isSome && (Filed.ofEntry (!tableLike) e).name == name) ↔
      e.IsCalled tableLike name := by
  rw [Bool.and_eq_true, beq_iff_eq, schema_ofEntry he]
  rfl

theorem isCalledInDefault_ofEntry (he : e.IsTrimmed) {name : String} :
    (((Filed.ofEntry (!tableLike) e).schema.isSome && (Filed.ofEntry (!tableLike) e).name == name) &&
      (Filed.ofEntry (!tableLike) e).inDefaultSchema) ↔ e.IsCalledInDefault tableLike name := by
  rw [Bool.and_eq_true, isCalled_ofEntry he]
  constructor
  · rintro ⟨hcalled, hdefault⟩
    exact ⟨(inDefaultSchema_ofEntry hcalled.1).1 hdefault, hcalled.2⟩
  · intro h
    exact ⟨h.isCalled, (inDefaultSchema_ofEntry h.isCalled.1).2 h.1⟩

end

/-! ### The order of numbers -/

/-- The entries in the order of their numbers. -/
def ordered (entries : List Entry) : List Entry :=
  sortBy (fun a b => a.entity.id ≤ b.entity.id) entries

theorem mem_ordered {entries : List Entry} {e : Entry} : e ∈ ordered entries ↔ e ∈ entries :=
  (perm_sortBy _ entries).mem_iff

theorem pairwise_ordered (entries : List Entry) : (ordered entries).Pairwise fun a b => a.entity.id ≤ b.entity.id := by
  have h : (ordered entries).Pairwise fun a b => decide (a.entity.id ≤ b.entity.id) := by
    refine pairwise_sortBy (fun a b c hab hbc => ?_) (fun a b => ?_) entries
    · rw [decide_eq_true_eq] at *
      exact Int.le_trans hab hbc
    · rw [decide_eq_true_eq, decide_eq_true_eq]
      exact Int.le_total _ _
  exact h.imp of_decide_eq_true

/-- Of the entries with a property, the first in their order has the least number. -/
theorem isFirst_of_find? {entries : List Entry} {p : Entry → Prop} [DecidablePred p] {e : Entry}
    (h : (ordered entries).find? (p ·) = some e) : IsFirst entries p e where
  mem := mem_ordered.1 (List.mem_of_find?_eq_some h)
  holds := by simpa using List.find?_some h
  least := by
    intro other hother hp
    obtain ⟨_, before, after, heq, hbefore⟩ := List.find?_eq_some_iff_append.1 h
    have hordered := pairwise_ordered entries
    rw [heq, List.pairwise_append, List.pairwise_cons] at hordered
    have hmem := mem_ordered.2 hother
    rw [heq, List.mem_append, List.mem_cons] at hmem
    rcases hmem with hmem | rfl | hmem
    · exact absurd hp (by simpa using hbefore other hmem)
    · exact Int.le_refl _
    · exact hordered.2.1.1 other hmem

theorem find?_ordered_eq_none {entries : List Entry} {p : Entry → Prop} [DecidablePred p] :
    (ordered entries).find? (p ·) = none ↔ ∀ e ∈ entries, ¬ p e := by
  simp only [List.find?_eq_none, mem_ordered, decide_eq_true_eq]

theorem find?_of_isFirst {entries : List Entry} {p : Entry → Prop} [DecidablePred p] {e : Entry}
    (hids : (entries.map (·.entity.id)).Nodup) (h : IsFirst entries p e) :
    (ordered entries).find? (p ·) = some e := by
  cases hfound : (ordered entries).find? (p ·) with
  | none => exact absurd h.holds (find?_ordered_eq_none.1 hfound e h.mem)
  | some other =>
    have hother := isFirst_of_find? hfound
    have hid : other.entity.id = e.entity.id :=
      Int.le_antisymm (hother.least e h.mem h.holds) (h.least other hother.mem hother.holds)
    rw [List.inj_on_of_nodup_map hids hother.mem h.mem hid]

/-- With distinct numbers there is only one order. -/
theorem ordered_eq_of_perm {entries entries' : List Entry} (hids : (entries.map (·.entity.id)).Nodup)
    (h : entries'.Perm entries) : ordered entries' = ordered entries := by
  refine List.Perm.eq_of_pairwise (fun a b ha hb hab hba => ?_) (pairwise_ordered _) (pairwise_ordered _)
    (((perm_sortBy _ _).trans h).trans (perm_sortBy _ _).symm)
  exact List.inj_on_of_nodup_map hids (h.mem_iff.1 (mem_ordered.1 ha)) (mem_ordered.1 hb) (Int.le_antisymm hab hba)

end Catalog

open Catalog (ordered)

/-! ### What a reference resolves to -/

/-- What is found among filed entries is found among the entries. -/
theorem Resolution.NameIndex.map_entry_find? {entries : List Entry} {assumeDefault : Bool} {p : Filed → Bool}
    {q : Entry → Prop} [DecidablePred q] (h : ∀ e ∈ entries, (p (Filed.ofEntry assumeDefault e) ↔ q e)) :
    ((ofEntries assumeDefault entries).find? p).map Filed.entry = (ordered entries).find? (q ·) := by
  show (((ordered entries).map (Filed.ofEntry assumeDefault)).find? p).map Filed.entry = _
  rw [List.find?_map, Option.map_map]
  have hid : Filed.entry ∘ Filed.ofEntry assumeDefault = id := rfl
  rw [hid, Option.map_id_apply]
  refine List.find?_congr fun e he => ?_
  rw [Bool.eq_iff_iff, decide_eq_true_eq]
  exact h e (Catalog.mem_ordered.1 he)

namespace Resolver

/-- The entry that a reference means. -/
def Means (tables routines : List Entry) (reference : Reference) (e : Entry) : Prop :=
  Catalog.IsMeant reference.targetKind.isTableLike (entriesFor tables routines reference.targetKind)
    (Catalog.normalizedName reference.targetName) e

variable {project : Int} {tables routines : List Entry} {reference : Reference}

/-- The search in an index, in terms of the entries. -/
theorem target?_ofCatalog (htrim : ∀ e ∈ tables ++ routines, e.IsTrimmed) (reference : Reference) :
    let entries := ordered (entriesFor tables routines reference.targetKind)
    let tableLike := reference.targetKind.isTableLike
    let name := Catalog.normalizedName reference.targetName
    (ofCatalog project tables routines).target? reference =
      (entries.find? (·.key tableLike = name)).or
        ((if name.toList.contains '.' then none
          else (entries.find? (·.IsCalledInDefault tableLike name)).or (entries.find? (·.IsCalled tableLike name))).or
          (entries.find? (·.key tableLike = s!"{defaultSchema}.{name}"))) := by
  intro entries tableLike name
  let filed := NameIndex.ofEntries (!tableLike) (entriesFor tables routines reference.targetKind)
  have hmem : ∀ e ∈ entriesFor tables routines reference.targetKind, e.IsTrimmed :=
    fun e he => htrim e (mem_of_mem_entriesFor he)
  have hlookup : (ofCatalog project tables routines).target? reference =
      ((filed.lookup? name).map Match.found).map Filed.entry := by
    rw [target?, lookup?, index_ofCatalog, Option.map_map]
    rfl
  have hkey (key : String) : (filed.find? (·.key == key)).map Filed.entry = entries.find? (·.key tableLike = key) := by
    refine NameIndex.map_entry_find? fun e he => ?_
    rw [beq_iff_eq, Catalog.key_ofEntry (hmem e he)]
  have hcalled : (filed.find? fun f => f.schema.isSome && f.name == name).map Filed.entry =
      entries.find? (·.IsCalled tableLike name) :=
    NameIndex.map_entry_find? fun e he => Catalog.isCalled_ofEntry (hmem e he)
  have hinDefault : (filed.find? fun f => (f.schema.isSome && f.name == name) && f.inDefaultSchema).map Filed.entry =
      entries.find? (·.IsCalledInDefault tableLike name) :=
    NameIndex.map_entry_find? fun e he => Catalog.isCalledInDefault_ofEntry (hmem e he)
  have hqualified : qualifiedName defaultSchema name = s!"{defaultSchema}.{name}" := if_neg (by decide)
  rw [hlookup, NameIndex.found_lookup?, NameIndex.candidates, List.find?_filter, List.head?_filter, hqualified]
  simp only [Bool.decide_and, Bool.decide_eq_true]
  rw [Option.map_or, Option.map_or, apply_ite (Option.map Filed.entry), Option.map_or, hkey, hkey, hcalled, hinDefault,
    Option.map_none]

/-- What a reference resolves to is what it means, also where entries share numbers. -/
theorem means_of_target? (htrim : ∀ e ∈ tables ++ routines, e.IsTrimmed) {e : Entry}
    (h : (ofCatalog project tables routines).target? reference = some e) : Means tables routines reference e := by
  rw [target?_ofCatalog htrim] at h
  rcases Option.or_eq_some_iff.1 h with h | ⟨hkey, h⟩
  · exact .key (Catalog.isFirst_of_find? h)
  · rw [Catalog.find?_ordered_eq_none] at hkey
    rcases Option.or_eq_some_iff.1 h with h | ⟨hbare, h⟩
    · split at h
      · cases h
      · rename_i hpoint
        rw [List.contains_iff_mem] at hpoint
        rcases Option.or_eq_some_iff.1 h with h | ⟨hdefault, h⟩
        · exact .inDefault hkey hpoint (Catalog.isFirst_of_find? h)
        · exact .inOther hkey hpoint (Catalog.find?_ordered_eq_none.1 hdefault) (Catalog.isFirst_of_find? h)
    · refine .keyInDefault hkey (fun hpoint => ?_) (Catalog.isFirst_of_find? h)
      rw [if_neg (by simpa using hpoint), Option.or_eq_none_iff] at hbare
      exact Catalog.find?_ordered_eq_none.1 hbare.2

theorem target?_eq_some_iff (htrim : ∀ e ∈ tables ++ routines, e.IsTrimmed)
    (hids : ((entriesFor tables routines reference.targetKind).map (·.entity.id)).Nodup) {e : Entry} :
    (ofCatalog project tables routines).target? reference = some e ↔ Means tables routines reference e := by
  refine ⟨means_of_target? htrim, fun h => ?_⟩
  rw [target?_ofCatalog htrim]
  have hnone {p : Entry → Prop} [DecidablePred p]
      (hp : ∀ e ∈ entriesFor tables routines reference.targetKind, ¬ p e) := Catalog.find?_ordered_eq_none.2 hp
  cases h with
  | key first => rw [Catalog.find?_of_isFirst hids first, Option.some_or]
  | inDefault noKey noPoint first =>
    rw [hnone noKey, Option.none_or, if_neg (by simpa using noPoint), Catalog.find?_of_isFirst hids first,
      Option.some_or, Option.some_or]
  | inOther noKey noPoint noDefault first =>
    rw [hnone noKey, Option.none_or, if_neg (by simpa using noPoint), hnone noDefault, Option.none_or,
      Catalog.find?_of_isFirst hids first, Option.some_or]
  | keyInDefault noKey noBare first =>
    have hbare {p : Entry → Prop} [DecidablePred p]
        (hp : ∀ e : Entry, p e →
          e.IsCalled reference.targetKind.isTableLike (Catalog.normalizedName reference.targetName))
        (hpoint : '.' ∉ (Catalog.normalizedName reference.targetName).toList) :=
      hnone fun e he hpe => noBare hpoint e he (hp e hpe)
    rw [hnone noKey, Option.none_or, Catalog.find?_of_isFirst hids first]
    split
    · rw [Option.none_or]
    · rename_i hpoint
      rw [List.contains_iff_mem] at hpoint
      rw [hbare (fun e he => he.isCalled) hpoint, hbare (fun e he => he) hpoint, Option.none_or, Option.none_or]

end Resolver

/-- In each list no two entries share a number, and no blanks stand around a schema. -/
structure Catalog.IsOrderly (tables routines : List Entry) : Prop where
  nodup_tables : (tables.map (·.entity.id)).Nodup
  nodup_routines : (routines.map (·.entity.id)).Nodup
  trimmed : ∀ e ∈ tables ++ routines, e.IsTrimmed

/-- What the entries of a project are taken from is orderly. -/
theorem Store.Reachable.isOrderly {s : Store} (hs : Reachable s) (project : Int) :
    Catalog.IsOrderly (s.entriesOf project (ObjectKind.family .table))
      (s.entriesOf project (ObjectKind.family .procedure)) := by
  have hids (kinds : List ObjectKind) : ((s.entriesOf project kinds).map (·.entity.id)).Nodup := by
    rw [Store.entriesOf, List.map_map]
    exact hs.nodup_ids.sublist ((List.filter_sublist.trans List.filter_sublist).map _)
  have htrim {kinds : List ObjectKind} {e : Entry} (he : e ∈ s.entriesOf project kinds) : e.IsTrimmed := by
    obtain ⟨o, ho, rfl⟩ := List.mem_map.1 he
    intro schema hschema
    have hclean := Store.isClean_of_mem hs (List.mem_of_mem_filter ho)
    change o.schema? = some schema at hschema
    unfold Catalog.Object.schema? at hschema
    split at hschema
    · cases hschema
    · obtain rfl := Option.some.inj hschema
      exact hclean.trim_schema
  refine ⟨hids _, hids _, fun e he => ?_⟩
  rcases List.mem_append.1 he with he | he
  · exact htrim he
  · exact htrim he

theorem Catalog.IsOrderly.nodup_entriesFor {tables routines : List Entry} (h : IsOrderly tables routines)
    (kind : ObjectKind) : ((Resolver.entriesFor tables routines kind).map (·.entity.id)).Nodup := by
  unfold Resolver.entriesFor
  split
  · exact h.nodup_tables
  · exact h.nodup_routines

namespace Resolver

variable {project : Int} {tables routines : List Entry}

/-- A batch of references resolves to what its references mean. -/
structure ResolvesToMeant (project : Int) (tables routines : List Entry) (references : List Reference) : Prop where
  /-- A reference resolves to the one entry that it means, if there is one. -/
  target : ∀ reference ∈ references, ∀ e,
    (ofCatalog project tables routines).target? reference = some e ↔ Means tables routines reference e
  /-- The edges are those from the references to what they mean. -/
  edges : ∀ edge, edge ∈ ((ofCatalog project tables routines).resolve references).edges ↔
    ∃ reference ∈ references, ∃ e, Means tables routines reference e ∧
      edge = ⟨project, reference.source, e.entity, reference.usage, Confidence.static⟩
  /-- The references that are reported are those that mean nothing. -/
  unresolved : ∀ reference, reference ∈ ((ofCatalog project tables routines).resolve references).unresolved ↔
    reference ∈ references ∧ ¬ ∃ e, Means tables routines reference e
  /-- The order of the entries does not matter. -/
  any_order : ∀ tables' routines' : List Entry, tables'.Perm tables → routines'.Perm routines →
    (ofCatalog project tables' routines').resolve references = (ofCatalog project tables routines).resolve references

theorem ofCatalog_eq_of_perm {tables' routines' : List Entry} (h : Catalog.IsOrderly tables routines)
    (ht : tables'.Perm tables) (hr : routines'.Perm routines) :
    ofCatalog project tables' routines' = ofCatalog project tables routines := by
  have hindex {entries entries' : List Entry} (assumeDefault : Bool) (heq : ordered entries' = ordered entries) :
      NameIndex.ofEntries assumeDefault entries' = NameIndex.ofEntries assumeDefault entries :=
    congrArg (List.map (Filed.ofEntry assumeDefault)) heq
  rw [ofCatalog, ofCatalog, hindex _ (Catalog.ordered_eq_of_perm h.nodup_tables ht),
    hindex _ (Catalog.ordered_eq_of_perm h.nodup_routines hr)]

/-- In an orderly catalog, references resolve to what they mean. -/
theorem resolvesToMeant_ofCatalog (h : Catalog.IsOrderly tables routines) (project : Int)
    (references : List Reference) : ResolvesToMeant project tables routines references := by
  have htarget {reference : Reference} {e : Entry} :
      (ofCatalog project tables routines).target? reference = some e ↔ Means tables routines reference e :=
    target?_eq_some_iff h.trimmed (h.nodup_entriesFor reference.targetKind)
  refine ⟨fun _ _ _ => htarget, fun edge => ?_, fun reference => ?_, fun tables' routines' ht hr => ?_⟩
  · rw [mem_edges_resolve]
    simp only [htarget, eq_comm (b := edge)]
    rfl
  · rw [mem_unresolved_resolve, Option.eq_none_iff_forall_ne_some]
    simp only [ne_eq, htarget, not_exists]
  · rw [ofCatalog_eq_of_perm h ht hr]

/-- Two names in two schemas each, of which one is the default schema. -/
def usersAndStaff : List Entry :=
  [⟨⟨.table, 6⟩, some "ops", "Staff"⟩, ⟨⟨.table, 5⟩, some "hr", "Staff"⟩, ⟨⟨.view, 3⟩, some "dbo", "Users"⟩,
    ⟨⟨.table, 2⟩, some "sales", "Users"⟩]

theorem resolvesToMeant_usersAndStaff :
    let references := ["[Users]", "STAFF", "dbo.Orders"].map Store.referenceTo
    Catalog.IsOrderly usersAndStaff [] ∧ ResolvesToMeant 1 usersAndStaff [] references ∧
      ((ofCatalog 1 usersAndStaff []).resolve references).edges.map Edge.target = [⟨.view, 3⟩, ⟨.table, 5⟩] ∧
      ((ofCatalog 1 usersAndStaff []).resolve references).unresolved = [Store.referenceTo "dbo.Orders"] := by
  intro references
  have horderly : Catalog.IsOrderly usersAndStaff [] := by
    refine ⟨by decide, List.nodup_nil, ?_⟩
    show ∀ e ∈ usersAndStaff ++ [], e.IsTrimmed
    simp only [usersAndStaff, List.append_nil, List.forall_mem_cons]
    decide +kernel
  exact ⟨horderly, resolvesToMeant_ofCatalog horderly 1 references, by decide +kernel, by decide +kernel⟩

/-- A name without a point also means a table without a schema whose own name begins with the default schema. -/
theorem resolve_pointedTable :
    let table : Entry := ⟨⟨.table, 1⟩, none, "dbo.Users"⟩
    let resolution := (ofCatalog 1 [table] []).resolve [Store.referenceTo "Users"]
    Catalog.IsOrderly [table] [] ∧ Catalog.normalizedName "Users" = "users" ∧ '.' ∉ "users".toList ∧
      table.key true ≠ "users" ∧ table.effectiveSchema? true = none ∧
      resolution.edges.map Edge.target = [⟨.table, 1⟩] ∧ resolution.unresolved = [] := by
  intro table resolution
  refine ⟨⟨by decide, List.nodup_nil, ?_⟩, by decide +kernel, by decide +kernel, by decide +kernel, by decide +kernel,
    by decide +kernel, by decide +kernel⟩
  rintro e he schema hschema
  obtain rfl : e = table := List.mem_singleton.1 he
  cases hschema

end Resolver

end ChangeImpact
