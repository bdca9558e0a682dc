import ChangeImpact.Proofs.Ambiguity

/-!
# References with a schema

Where neither schemas nor names have points, a reference `schema.name` stays in its schema: what it resolves to is in
that schema or in none (`Resolver.staysInSchema_ofCatalog`).  But the default schema is taken off before names are
looked up, and what is left is a name without a schema.

* (other schemas) The name that is looked up has a point, so it is only found among the keys, and never reported as
  ambiguous.
* (default schema) The name that is looked up has no point.  It is found in other schemas if no entry of the name is in
  the default schema or in none.
-/

namespace ChangeImpact

open Catalog (Entry defaultSchema bareName dropDefaultSchema normalizedName)
open Resolution (NameIndex Filed)
open Text

namespace Catalog

/-! ### Taking the default schema off -/

section

variable {schema name : String}

theorem fold_defaultSchema : fold defaultSchema = defaultSchema := by
  decide +kernel

theorem ascii_defaultSchema : ∀ c ∈ defaultSchema.toList, c.toNat < 0x80 := by
  show ∀ c ∈ ['d', 'b', 'o'], c.toNat < 0x80
  simp

theorem sameCase_defaultSchema : sameCase schema defaultSchema ↔ Text.lower schema = defaultSchema := by
  rw [sameCase_iff, fold_defaultSchema]
  exact fold_eq_iff ascii_defaultSchema

theorem map_plainSigma_lower (s : String) : (Text.lower s).toList.map plainSigma = (fold s).toList := by
  rw [fold, String.toList_map]

/-- Any other schema stays. -/
theorem dropDefaultSchema_other (hs : '.' ∉ schema.toList) (hn : '.' ∉ name.toList)
    (hother : ¬ sameCase schema defaultSchema) :
    dropDefaultSchema (Text.lower s!"{schema}.{name}") = Text.lower s!"{schema}.{name}" := by
  rw [dropDefaultSchema]
  split
  · rename_i c cs hlist
    have hfold : (fold schema).toList ++ '.' :: (fold name).toList =
        defaultSchema.toList ++ '.' :: (c :: cs).map plainSigma := by
      rw [← toList_fold_dotted, ← map_plainSigma_lower, hlist]
      rfl
    rw [← period_mem_fold] at hs hn
    rw [List.append_cons_inj_of_notMem hs hn] at hfold
    rw [sameCase_iff, fold_defaultSchema] at hother
    exact absurd (String.toList_inj.1 hfold.1) hother
  · rfl

/-- Without the default schema, a name has no point, unless there is nothing else. -/
theorem dropDefaultSchema_default (hn : '.' ∉ name.toList) (hdefault : sameCase schema defaultSchema) :
    '.' ∉ (dropDefaultSchema (Text.lower s!"{schema}.{name}")).toList ∨
      ∃ rest : String, dropDefaultSchema (Text.lower s!"{schema}.{name}") = s!"{defaultSchema}.{rest}" := by
  have hfold := map_plainSigma_lower s!"{schema}.{name}"
  rw [toList_fold_dotted, sameCase_iff.1 hdefault, fold_defaultSchema] at hfold
  obtain ⟨front, rest, hlist, hfront, hrest⟩ := List.map_eq_append_iff.1 hfold
  obtain ⟨point, more, rfl, hpoint, hmore⟩ := List.map_eq_cons_iff.1 hrest
  rw [map_plainSigma_eq_iff ascii_defaultSchema] at hfront
  rw [plainSigma_eq_iff (by decide)] at hpoint
  subst hfront hpoint
  cases more with
  | nil =>
    have heq : Text.lower s!"{schema}.{name}" = "dbo." := by
      rw [← String.toList_inj, hlist]
      rfl
    rw [heq]
    exact .inr ⟨"", by decide +kernel⟩
  | cons c cs =>
    have hdrop : dropDefaultSchema (Text.lower s!"{schema}.{name}") = .ofList (c :: cs) := by
      rw [dropDefaultSchema, hlist]
      rfl
    rw [hdrop, String.toList_ofList]
    refine .inl fun hmem => hn (period_mem_fold.1 ?_)
    rw [← hmore]
    exact List.mem_map.2 ⟨'.', hmem, rfl⟩

end

/-! ### Entries without points -/

/-- Neither the name nor the schema has a point, and no blanks stand around the schema. -/
structure Entry.IsUnpointed (e : Entry) : Prop where
  name : '.' ∉ e.name.toList
  schema : ∀ schema ∈ e.schema, '.' ∉ schema.toList
  trimmed : e.IsTrimmed

instance (e : Entry) : Decidable e.IsUnpointed :=
  have : Decidable (∀ schema ∈ e.schema, '.' ∉ schema.toList) :=
    Option.decidableForallMem (p := fun schema => '.' ∉ schema.toList) e.schema
  decidable_of_iff ('.' ∉ e.name.toList ∧ (∀ schema ∈ e.schema, '.' ∉ schema.toList) ∧ e.IsTrimmed)
    ⟨fun h => ⟨h.1, h.2.1, h.2.2⟩, fun h => ⟨h.name, h.schema, h.trimmed⟩⟩

variable {tableLike : Bool} {e : Entry} {schema written name : String}

theorem Entry.key_of_writtenSchema? (hwritten : e.writtenSchema? = some written) :
    e.key tableLike = s!"{Text.lower written}.{Text.lower e.name}" := by
  rw [Entry.key, Entry.effectiveSchema?, hwritten]

/-- An entry with a written schema is found by keys of that schema only. -/
theorem Entry.IsUnpointed.sameCase_of_key (he : e.IsUnpointed) (hwritten : e.writtenSchema? = some written)
    {rest : List Char} (hkey : (e.key tableLike).toList.map plainSigma = (fold schema).toList ++ '.' :: rest) :
    sameCase written schema ∧ '.' ∉ rest := by
  have hschema := he.schema written (schema_of_writtenSchema? hwritten)
  have hname := he.name
  have hparts : (e.key tableLike).toList.map plainSigma = (fold written).toList ++ '.' :: (fold e.name).toList := by
    rw [Entry.key_of_writtenSchema? hwritten, toList_dotted, List.map_append, List.map_cons, map_plainSigma_lower,
      map_plainSigma_lower]
    rfl
  rw [← period_mem_fold] at hschema hname
  rw [hparts, List.append_cons_inj_of_notMem hschema hname] at hkey
  obtain ⟨hsame, _, hrest⟩ := hkey
  exact ⟨sameCase_iff.2 (String.toList_inj.1 hsame), hrest ▸ hname⟩

/-- With the default schema in front, a name is the key of entries without a written schema and of those in the default
schema. -/
theorem Entry.IsUnpointed.sameCase_of_keyInDefault (he : e.IsUnpointed) (hwritten : e.writtenSchema? = some written)
    (hkey : e.key tableLike = s!"{defaultSchema}.{name}") : sameCase written defaultSchema ∧ '.' ∉ name.toList := by
  have hfold : (e.key tableLike).toList.map plainSigma =
      (fold defaultSchema).toList ++ '.' :: name.toList.map plainSigma := by
    rw [hkey, toList_dotted, List.map_append, List.map_cons, fold_defaultSchema,
      (map_plainSigma_eq_iff ascii_defaultSchema).2 rfl]
    rfl
  obtain ⟨hsame, hname⟩ := he.sameCase_of_key hwritten hfold
  exact ⟨hsame, fun hmem => hname (List.mem_map.2 ⟨'.', hmem, rfl⟩)⟩

/-- An entry that is not found by its name alone, neither as a key nor in the default schema, is in another schema. -/
theorem exists_writtenSchema_of_lower (hname : Text.lower e.name = name) (hkey : e.key tableLike ≠ name)
    (hdefault : ¬ e.IsCalledInDefault tableLike name) :
    ∃ written ∈ e.writtenSchema?, ¬ sameCase written defaultSchema := by
  cases hwritten : e.writtenSchema? with
  | none =>
    cases tableLike with
    | true => exact absurd (by rw [Entry.key, Entry.effectiveSchema?, hwritten]; exact hname) hkey
    | false => exact absurd ⟨by rw [Entry.effectiveSchema?, hwritten]; rfl, hname⟩ hdefault
  | some written =>
    refine ⟨written, rfl, fun hsame => hdefault ⟨?_, hname⟩⟩
    rw [Entry.effectiveSchema?, hwritten]
    exact congrArg some (sameCase_defaultSchema.1 hsame)

end Catalog

/-! ### References -/

namespace Resolver

variable {project : Int} {tables routines : List Entry} {reference : Reference} {schema name : String}

/-- How a reference with a schema stays in it. -/
structure StaysInSchema (project : Int) (tables routines : List Entry) (reference : Reference)
    (schema : String) : Prop where
  /-- The edges of the reference are those to what it resolves to. -/
  edges : ∀ edge ∈ ((ofCatalog project tables routines).resolve [reference]).edges, ∃ e,
    (ofCatalog project tables routines).target? reference = some e ∧
      edge = ⟨project, reference.source, e.entity, reference.usage, Confidence.static⟩
  /-- In another schema than the default one, it resolves to entries of that schema or without one. -/
  other : ¬ sameCase schema defaultSchema → ∀ e, (ofCatalog project tables routines).target? reference = some e →
    ∀ written ∈ e.writtenSchema?, sameCase written schema
  /-- There it is not ambiguous, whatever else is referred to. -/
  unambiguous : ¬ sameCase schema defaultSchema → ∀ references,
    ∀ a ∈ ((ofCatalog project tables routines).resolve references).ambiguous,
      a.name ≠ normalizedName reference.targetName
  /-- In the default schema, it resolves to an entry of another schema only if all entries of the name that is looked up
  are in other schemas. -/
  default : sameCase schema defaultSchema → ∀ e, (ofCatalog project tables routines).target? reference = some e →
    ∀ written ∈ e.writtenSchema?, ¬ sameCase written schema →
      ∀ namesake ∈ entriesFor tables routines reference.targetKind,
        Text.lower namesake.name = normalizedName reference.targetName →
          ∃ written ∈ namesake.writtenSchema?, ¬ sameCase written schema
  /-- It is only ambiguous if the name that is looked up is not a key, and several entries have it. -/
  ambiguous : ((ofCatalog project tables routines).resolve [reference]).ambiguous ≠ [] →
    (∀ e ∈ entriesFor tables routines reference.targetKind,
      e.key reference.targetKind.isTableLike ≠ normalizedName reference.targetName) ∧
    2 ≤ ((entriesFor tables routines reference.targetKind).filter fun e =>
      e.IsCalled reference.targetKind.isTableLike (normalizedName reference.targetName)).length

theorem length_candidates_ofEntries {tableLike : Bool} {entries : List Entry} (htrim : ∀ e ∈ entries, e.IsTrimmed)
    (name : String) : ((NameIndex.ofEntries (!tableLike) entries).candidates name).length =
      (entries.filter fun e => e.IsCalled tableLike name).length := by
  have hcalled : ∀ e ∈ Catalog.ordered entries,
      ((fun f => f.schema.isSome && f.name == name) ∘ Filed.ofEntry (!tableLike)) e =
        decide (e.IsCalled tableLike name) := by
    intro e he
    rw [Bool.eq_iff_iff, decide_eq_true_eq]
    exact Catalog.isCalled_ofEntry (htrim e (Catalog.mem_ordered.1 he))
  show (((Catalog.ordered entries).map (Filed.ofEntry (!tableLike))).filter _).length = _
  rw [List.filter_map, List.length_map, List.filter_congr hcalled]
  exact ((perm_sortBy _ entries).filter _).length_eq

/-- Reports on one reference are about several entries of the name that is looked up. -/
theorem several_of_ambiguous (htrim : ∀ e ∈ tables ++ routines, e.IsTrimmed)
    (h : ((ofCatalog project tables routines).resolve [reference]).ambiguous ≠ []) :
    (∀ e ∈ entriesFor tables routines reference.targetKind,
      e.key reference.targetKind.isTableLike ≠ normalizedName reference.targetName) ∧
    2 ≤ ((entriesFor tables routines reference.targetKind).filter fun e =>
      e.IsCalled reference.targetKind.isTableLike (normalizedName reference.targetName)).length := by
  have hmem : ∀ e ∈ entriesFor tables routines reference.targetKind, e.IsTrimmed :=
    fun e he => htrim e (mem_of_mem_entriesFor he)
  rw [ambiguous_resolve, ← List.length_pos_iff, List.length_map, ← List.length_map reportKey, List.length_pos_iff] at h
  obtain ⟨key, hkey⟩ := List.exists_mem_of_ne_nil _ h
  obtain ⟨other, hother, rfl, hlength⟩ := mem_map_reportKey.1 hkey
  rw [List.mem_singleton.1 hother, namesakes_lookupKey, index_ofCatalog] at hlength
  obtain ⟨hnone, _, heq⟩ := NameIndex.namesakes_eq_candidates hlength
  rw [heq, length_candidates_ofEntries hmem] at hlength
  refine ⟨fun e he hkey => ?_, hlength⟩
  have hfiled : Filed.ofEntry (!reference.targetKind.isTableLike) e ∈
      NameIndex.ofEntries (!reference.targetKind.isTableLike) (entriesFor tables routines reference.targetKind) :=
    List.mem_map_of_mem (Catalog.mem_ordered.2 he)
  have hother := List.find?_eq_none.1 (Option.map_eq_none_iff.1 hnone) _ hfiled
  rw [beq_iff_eq, Catalog.key_ofEntry (hmem e he)] at hother
  exact hother hkey

/-- No reports are made on names with a point. -/
theorem period_not_mem_of_ambiguous {r : Resolver} {references : List Reference} {a : Ambiguity}
    (h : a ∈ (r.resolve references).ambiguous) : '.' ∉ a.name.toList := by
  rw [ambiguous_resolve] at h
  obtain ⟨⟨family, _⟩, hreport, rfl⟩ := List.mem_map.1 h
  exact (NameIndex.namesakes_eq_candidates (of_mem_reports hreport).1).2.1

section

variable (hplain : ∀ e ∈ tables ++ routines, e.IsUnpointed)
  (htext : bareName reference.targetName = s!"{schema}.{name}") (hs : '.' ∉ schema.toList) (hn : '.' ∉ name.toList)
include htext hs hn

theorem normalizedName_other (hother : ¬ sameCase schema defaultSchema) :
    normalizedName reference.targetName = Text.lower s!"{schema}.{name}" := by
  rw [normalizedName, htext, Catalog.dropDefaultSchema_other hs hn hother]

theorem period_mem_normalizedName (hother : ¬ sameCase schema defaultSchema) :
    '.' ∈ (normalizedName reference.targetName).toList := by
  rw [normalizedName_other htext hs hn hother, period_mem_lower, toList_dotted]
  exact List.mem_append_right _ List.mem_cons_self

include hplain

/-- A name with another schema than the default one keeps its point, so it is only found among the keys. -/
theorem sameCase_of_target? (hother : ¬ sameCase schema defaultSchema) {e : Entry} {written : String}
    (he : (ofCatalog project tables routines).target? reference = some e) (hwritten : e.writtenSchema? = some written) :
    sameCase written schema := by
  have hentry := hplain e (mem_of_mem_entriesFor (mem_entriesFor_of_target? he))
  have hpoint := period_mem_normalizedName htext hs hn hother
  cases means_of_target? (fun e he => (hplain e he).trimmed) he with
  | key first =>
    have hkey : (e.key reference.targetKind.isTableLike).toList.map plainSigma =
        (fold schema).toList ++ '.' :: (fold name).toList := by
      rw [first.holds, normalizedName_other htext hs hn hother, Catalog.map_plainSigma_lower, toList_fold_dotted]
    exact (hentry.sameCase_of_key hwritten hkey).1
  | inDefault _ noPoint => exact absurd hpoint noPoint
  | inOther _ noPoint => exact absurd hpoint noPoint
  | keyInDefault _ _ first => exact absurd hpoint (hentry.sameCase_of_keyInDefault hwritten first.holds).2

omit hs in
/-- A name in the default schema is found in another one only without its schema, and only if the default schema has no
entry of the name. -/
theorem elsewhere_of_target? (hdefault : sameCase schema defaultSchema) {e namesake : Entry} {written : String}
    (he : (ofCatalog project tables routines).target? reference = some e) (hwritten : e.writtenSchema? = some written)
    (helsewhere : ¬ sameCase written defaultSchema)
    (hnamesake : namesake ∈ entriesFor tables routines reference.targetKind)
    (hname : Text.lower namesake.name = normalizedName reference.targetName) :
    ∃ written ∈ namesake.writtenSchema?, ¬ sameCase written defaultSchema := by
  have hentry := hplain e (mem_of_mem_entriesFor (mem_entriesFor_of_target? he))
  cases means_of_target? (fun e he => (hplain e he).trimmed) he with
  | key first =>
    have hkey := first.holds
    rw [normalizedName, htext] at hkey
    rcases Catalog.dropDefaultSchema_default hn hdefault with hpoint | ⟨rest, hnothing⟩
    · rw [← hkey, Catalog.Entry.key_of_writtenSchema? hwritten, toList_dotted] at hpoint
      exact absurd (List.mem_append_right _ List.mem_cons_self) hpoint
    · rw [hnothing] at hkey
      exact absurd (hentry.sameCase_of_keyInDefault hwritten hkey).1 helsewhere
  | inDefault _ _ first =>
    have hlower := first.holds.1
    rw [Catalog.Entry.effectiveSchema?, hwritten] at hlower
    exact absurd (Catalog.sameCase_defaultSchema.2 (Option.some.inj hlower)) helsewhere
  | inOther noKey _ noDefault =>
    exact Catalog.exists_writtenSchema_of_lower hname (noKey namesake hnamesake) (noDefault namesake hnamesake)
  | keyInDefault _ _ first => exact absurd (hentry.sameCase_of_keyInDefault hwritten first.holds).1 helsewhere

end

/-- In a catalog without points, references with a schema stay in it. -/
theorem staysInSchema_ofCatalog (project : Int) (hplain : ∀ e ∈ tables ++ routines, e.IsUnpointed)
    (htext : bareName reference.targetName = s!"{schema}.{name}") (hs : '.' ∉ schema.toList) (hn : '.' ∉ name.toList) :
    StaysInSchema project tables routines reference schema where
  edges edge hedge := by
    obtain ⟨_, hreference, e, he, rfl⟩ := mem_edges_resolve.1 hedge
    obtain rfl := List.mem_singleton.1 hreference
    exact ⟨e, he, rfl⟩
  other hother e he written hwritten := sameCase_of_target? hplain htext hs hn hother he hwritten
  unambiguous hother references a ha hname :=
    period_not_mem_of_ambiguous ha (hname ▸ period_mem_normalizedName htext hs hn hother)
  default hdefault e he written hwritten helsewhere namesake hnamesake hname := by
    have hsame (s : String) : sameCase s schema ↔ sameCase s defaultSchema := by
      rw [sameCase_iff, sameCase_iff, sameCase_iff.1 hdefault]
    rw [hsame] at helsewhere
    simp only [hsame]
    exact elsewhere_of_target? hplain htext hn hdefault he hwritten helsewhere hnamesake hname
  ambiguous := several_of_ambiguous fun e he => (hplain e he).trimmed

theorem staysInSchema_usersAndStaff :
    let reference := Store.referenceTo "[SALES].[users]"
    (∀ e ∈ usersAndStaff ++ [], e.IsUnpointed) ∧ bareName reference.targetName = "SALES" ++ "." ++ "users" ∧
      '.' ∉ "SALES".toList ∧ '.' ∉ "users".toList ∧ StaysInSchema 1 usersAndStaff [] reference "SALES" ∧
      ((ofCatalog 1 usersAndStaff []).resolve [reference]).edges.map Edge.target = [⟨.table, 2⟩] := by
  intro reference
  have hplain : ∀ e ∈ usersAndStaff ++ [], e.IsUnpointed := by
    simp only [usersAndStaff, List.append_nil, List.forall_mem_cons]
    decide +kernel
  have htext : bareName reference.targetName = "SALES" ++ "." ++ "users" := by decide +kernel
  have hs : '.' ∉ "SALES".toList := by decide +kernel
  have hn : '.' ∉ "users".toList := by decide +kernel
  exact ⟨hplain, htext, hs, hn, staysInSchema_ofCatalog 1 hplain htext hs hn, by decide +kernel⟩

/-- A name in the default schema leads to a table in another schema, and is ambiguous where there are several tables. -/
theorem resolve_defaultSchemaElsewhere :
    let table : Entry := ⟨⟨.table, 1⟩, some "sales", "Users"⟩
    let reference := Store.referenceTo "dbo.Users"
    table.IsUnpointed ∧ bareName reference.targetName = "dbo" ++ "." ++ "Users" ∧
      (ofCatalog 1 [table] []).target? reference = some table ∧ table.writtenSchema? = some "sales" ∧
      ¬ sameCase "sales" "dbo" ∧
      ((ofCatalog 1 [table] []).resolve [reference]).edges.map Edge.target = [⟨.table, 1⟩] ∧
      ((ofCatalog 1 usersAndStaff []).resolve [reference]).ambiguous = [⟨"users", ["sales", "dbo"], "dbo"⟩] := by
  decide +kernel

end Resolver

end ChangeImpact
