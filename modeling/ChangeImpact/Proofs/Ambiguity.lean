import ChangeImpact.Proofs.Choice
import Mathlib.Data.List.Forall2

/-!
# Reports of ambiguous names

A name without a schema is reported as ambiguous when it is looked up by name alone and several entries have it
(`NameIndex.namesakes`), whatever their schemas.  So there is one report for each name and family of objects, and it
lists the schemas of all these entries and the one that was chosen; but it is about several schemas, each of them once,
only where the entries are in schemas of their own: `Resolver.reportsTruly_iff`.
-/

namespace ChangeImpact

open Catalog (Entry defaultSchema)
open Resolution (NameIndex Filed Match)
open Text

/-! ### Several entries of one name -/

namespace Resolution.NameIndex

variable {index : NameIndex} {name : String}

/-- The entries that a name may mean which has no point and is not a key. -/
def namesakes (index : NameIndex) (name : String) : List Filed :=
  if (index.byKey? name).isSome || name.toList.contains '.' then [] else index.candidates name

/-- The first in the default schema, or just the first. -/
def preferred? (namesakes : List Filed) : Option Filed :=
  (namesakes.find? Filed.inDefaultSchema).or namesakes.head?

theorem schemas_byKey? {m : Match} {key : String} (h : index.byKey? key = some m) : m.schemas = [] := by
  obtain ⟨_, _, rfl⟩ := Option.map_eq_some_iff.1 h
  rfl

theorem byName?_eq_some_cons {found : Filed} {first : String} {others : List String} :
    index.byName? name = some ⟨found, first :: others⟩ ↔ 2 ≤ (index.candidates name).length ∧
      preferred? (index.candidates name) = some found ∧
      (index.candidates name).map Filed.shownSchema = first :: others := by
  unfold byName?
  rcases index.candidates name with _ | ⟨a, _ | ⟨b, more⟩⟩
  · simp
  · simp
  · have hpreferred : preferred? (a :: b :: more) = some (((a :: b :: more).find? Filed.inDefaultSchema).getD a) := by
      unfold preferred?
      cases (a :: b :: more).find? Filed.inDefaultSchema <;> rfl
    simp [hpreferred]

/-- A lookup ends with several schemas exactly if the name has several namesakes. -/
theorem lookup?_eq_some_cons {found : Filed} {first : String} {others : List String} :
    index.lookup? name = some ⟨found, first :: others⟩ ↔ 2 ≤ (index.namesakes name).length ∧
      preferred? (index.namesakes name) = some found ∧
      (index.namesakes name).map Filed.shownSchema = first :: others := by
  have hkeyed (key : String) : index.byKey? key ≠ some ⟨found, first :: others⟩ := by
    intro h
    cases schemas_byKey? h
  rw [lookup?, Option.orElse_eq_orElse, Option.orElse_eq_or, Option.orElse_eq_or, Option.or_eq_some_iff,
    or_iff_right (hkeyed name), Option.or_eq_some_iff, or_iff_left fun h => hkeyed _ h.2, namesakes]
  cases index.byKey? name with
  | some m => simp
  | none =>
    by_cases hpoint : name.toList.contains '.'
    · simp only [hpoint, Bool.or_true, if_true]
      simp
    · simp only [hpoint, Option.isSome_none, Bool.or_self, Bool.false_eq_true, if_false, true_and]
      exact byName?_eq_some_cons

/-- A name with several namesakes is not a key, and has no point. -/
theorem namesakes_eq_candidates (h : 2 ≤ (index.namesakes name).length) :
    index.byKey? name = none ∧ '.' ∉ name.toList ∧ index.namesakes name = index.candidates name := by
  unfold namesakes at h ⊢
  split at h
  · cases h
  · rename_i hfound
    rw [if_neg hfound]
    rw [Bool.or_eq_true, not_or, Option.not_isSome_iff_eq_none, List.contains_iff_mem] at hfound
    exact ⟨hfound.1, hfound.2, rfl⟩

end Resolution.NameIndex

namespace Resolver

variable {r : Resolver} {references : List Reference} {reference : Reference}

/-! ### One report for each family and name -/

/-- The family of objects and the name that a reference is looked up by. -/
def lookupKey (reference : Reference) : Bool × String :=
  (reference.targetKind.isTableLike, Catalog.normalizedName reference.targetName)

/-- The entries that references with the key may mean, if they are not found otherwise. -/
def namesakes (r : Resolver) (key : Bool × String) : List Filed :=
  (if key.1 then r.tables else r.routines).namesakes key.2

theorem namesakes_lookupKey (r : Resolver) (reference : Reference) : r.namesakes (lookupKey reference) =
    (r.index reference.targetKind).namesakes (Catalog.normalizedName reference.targetName) := by
  rw [namesakes, lookupKey, index]

theorem lookup?_eq_some_cons {found : Filed} {first : String} {others : List String} :
    r.lookup? reference = some ⟨found, first :: others⟩ ↔ 2 ≤ (r.namesakes (lookupKey reference)).length ∧
      NameIndex.preferred? (r.namesakes (lookupKey reference)) = some found ∧
      (r.namesakes (lookupKey reference)).map Filed.shownSchema = first :: others := by
  rw [lookup?, namesakes_lookupKey]
  exact NameIndex.lookup?_eq_some_cons

/-- The report on a key depends only on its namesakes. -/
theorem ambiguity?_eq_some {family : Bool} {a : Ambiguity} :
    r.ambiguity? reference = some (family, a) ↔ (family, a.name) = lookupKey reference ∧
      2 ≤ (r.namesakes (lookupKey reference)).length ∧
      a.schemas = (r.namesakes (lookupKey reference)).map Filed.shownSchema ∧
      ∃ found, NameIndex.preferred? (r.namesakes (lookupKey reference)) = some found ∧
        a.chosen = found.shownSchema := by
  constructor
  · intro h
    unfold ambiguity? at h
    split at h
    · rename_i found first others heq
      obtain ⟨hlength, hfound, hschemas⟩ := lookup?_eq_some_cons.1 heq
      obtain ⟨rfl, rfl⟩ := Prod.mk.inj (Option.some.inj h)
      exact ⟨by rw [lookupKey], hlength, hschemas.symm, found, hfound, rfl⟩
    · cases h
  · rintro ⟨hkey, hlength, hschemas, found, hfound, hchosen⟩
    obtain ⟨name, schemas, chosen⟩ := a
    dsimp only at hkey hschemas hchosen
    cases schemas with
    | nil =>
      rw [← List.length_map Filed.shownSchema, ← hschemas] at hlength
      cases hlength
    | cons first others =>
      obtain ⟨hfamily, hname⟩ := Prod.mk.inj hkey
      rw [ambiguity?, lookup?_eq_some_cons.2 ⟨hlength, hfound, hschemas.symm⟩, hfamily, ← hname, hchosen]

theorem ambiguity?_isSome : (r.ambiguity? reference).isSome ↔ 2 ≤ (r.namesakes (lookupKey reference)).length := by
  rw [Option.isSome_iff_exists]
  constructor
  · rintro ⟨⟨family, a⟩, h⟩
    exact (ambiguity?_eq_some.1 h).2.1
  · intro hlength
    rcases hkey : lookupKey reference with ⟨family, name⟩
    rw [hkey] at hlength
    cases hfound : NameIndex.preferred? (r.namesakes (family, name)) with
    | none =>
      obtain ⟨f, others, heq⟩ := List.exists_cons_of_length_pos (Nat.lt_of_lt_of_le Nat.zero_lt_two hlength)
      rw [NameIndex.preferred?, heq, Option.or_eq_none_iff] at hfound
      cases hfound.2
    | some found =>
      refine ⟨(family, ⟨name, (r.namesakes (family, name)).map Filed.shownSchema, found.shownSchema⟩),
        ambiguity?_eq_some.2 ?_⟩
      rw [hkey]
      exact ⟨rfl, hlength, rfl, found, hfound, rfl⟩

/-- The family and name that a report is about. -/
def reportKey (report : Bool × Ambiguity) : Bool × String :=
  (report.1, report.2.name)

/-- The reports on a batch, with the family of each. -/
def reports (r : Resolver) (references : List Reference) : List (Bool × Ambiguity) :=
  distinctBy reportKey [] (references.filterMap r.ambiguity?)

theorem ambiguous_resolve (r : Resolver) (references : List Reference) :
    (r.resolve references).ambiguous = (r.reports references).map Prod.snd :=
  rfl

/-- The names that are reported are those with several namesakes. -/
theorem mem_map_reportKey {key : Bool × String} : key ∈ (r.reports references).map reportKey ↔
    ∃ reference ∈ references, lookupKey reference = key ∧ 2 ≤ (r.namesakes key).length := by
  rw [reports, mem_map_distinctBy, and_iff_left List.not_mem_nil, List.map_filterMap, List.mem_filterMap]
  refine exists_congr fun reference => and_congr_right fun _ => ?_
  rw [Option.map_eq_some_iff]
  constructor
  · rintro ⟨⟨family, a⟩, hreport, rfl⟩
    obtain ⟨hkey, hlength, _⟩ := ambiguity?_eq_some.1 hreport
    rw [reportKey, hkey]
    exact ⟨rfl, hlength⟩
  · rintro ⟨rfl, hlength⟩
    obtain ⟨⟨family, a⟩, hreport⟩ := Option.isSome_iff_exists.1 (ambiguity?_isSome.2 hlength)
    exact ⟨(family, a), hreport, (ambiguity?_eq_some.1 hreport).1⟩

theorem of_mem_reports {family : Bool} {a : Ambiguity} (h : (family, a) ∈ r.reports references) :
    2 ≤ (r.namesakes (family, a.name)).length ∧
      a.schemas = (r.namesakes (family, a.name)).map Filed.shownSchema ∧
      ∃ found, NameIndex.preferred? (r.namesakes (family, a.name)) = some found ∧ a.chosen = found.shownSchema := by
  obtain ⟨reference, _, hreport⟩ := List.mem_filterMap.1 (mem_of_mem_distinctBy h)
  obtain ⟨hkey, h⟩ := ambiguity?_eq_some.1 hreport
  rwa [← hkey] at h

/-! ### Reports of several schemas -/

/-- What the report on a family and name is expected to say. -/
structure Reports (r : Resolver) (references : List Reference) (key : Bool × String) (a : Ambiguity) : Prop where
  name : a.name = key.2
  /-- It lists the schemas of all entries that the name may mean. -/
  schemas : ∀ schema, schema ∈ a.schemas ↔ ∃ f ∈ r.namesakes key, f.shownSchema = schema
  /-- There are several schemas. -/
  several : ∃ schema ∈ a.schemas, ∃ other ∈ a.schemas, ¬ sameCase schema other
  /-- No schema comes twice. -/
  once : a.schemas.Pairwise fun schema other => ¬ sameCase schema other
  /-- One of them is chosen. -/
  chosen : a.chosen ∈ a.schemas
  /-- References by the name resolve to an entry in the chosen schema. -/
  resolved : ∀ reference ∈ references, lookupKey reference = key →
    ∃ e, r.target? reference = some e ∧ e.writtenSchema?.getD defaultSchema = a.chosen

/-- There is one report for each family and name that is referred to and found in several schemas, and it says what it
is expected to say. -/
def ReportsTruly (r : Resolver) (references : List Reference) : Prop :=
  ∃ keys : List (Bool × String), keys.Nodup ∧
    (∀ key, key ∈ keys ↔ ∃ reference ∈ references, lookupKey reference = key ∧
      ∃ f ∈ r.namesakes key, ∃ g ∈ r.namesakes key, ¬ sameCase f.shownSchema g.shownSchema) ∧
    List.Forall₂ (r.Reports references) keys (r.resolve references).ambiguous

/-- The entries are in schemas of their own. -/
def InSchemasOfTheirOwn (entries : List Filed) : Prop :=
  entries.Pairwise fun f g => ¬ sameCase f.shownSchema g.shownSchema

instance (entries : List Filed) : Decidable (InSchemasOfTheirOwn entries) :=
  inferInstanceAs (Decidable (entries.Pairwise _))

theorem inSchemasOfTheirOwn_of_length {entries : List Filed} (h : entries.length < 2) :
    InSchemasOfTheirOwn entries := by
  rcases entries with _ | ⟨f, _ | ⟨g, others⟩⟩
  · exact .nil
  · exact List.pairwise_singleton ..
  · exact absurd h (Nat.not_lt.2 (Nat.le_add_left 2 _))

/-- Entries in schemas of their own are in several schemas as soon as there are several. -/
theorem InSchemasOfTheirOwn.several_iff {entries : List Filed} (h : InSchemasOfTheirOwn entries) :
    (∃ f ∈ entries, ∃ g ∈ entries, ¬ sameCase f.shownSchema g.shownSchema) ↔ 2 ≤ entries.length := by
  rcases entries with _ | ⟨f, _ | ⟨g, others⟩⟩
  · simp
  · simp [sameCase_iff]
  · refine iff_of_true ⟨f, List.mem_cons_self, g, List.mem_cons_of_mem _ List.mem_cons_self, ?_⟩ (Nat.le_add_left 2 _)
    exact (List.pairwise_cons.1 h).1 g List.mem_cons_self

theorem mem_of_preferred? {entries : List Filed} {found : Filed} (h : NameIndex.preferred? entries = some found) :
    found ∈ entries := by
  rcases Option.or_eq_some_iff.1 h with h | ⟨_, h⟩
  · exact List.mem_of_find?_eq_some h
  · exact List.mem_of_head? h

/-- What is chosen in a report is what references by its name resolve to. -/
theorem target?_of_mem_reports {family : Bool} {a : Ambiguity} (h : (family, a) ∈ r.reports references)
    (hkey : lookupKey reference = (family, a.name)) :
    ∃ e, r.target? reference = some e ∧ e.writtenSchema?.getD defaultSchema = a.chosen := by
  obtain ⟨hlength, _, found, hfound, hchosen⟩ := of_mem_reports h
  rw [← hkey] at hlength hfound
  have hsome : 0 < ((r.namesakes (lookupKey reference)).map Filed.shownSchema).length := by
    rw [List.length_map]
    omega
  obtain ⟨first, others, heq⟩ := List.exists_cons_of_length_pos hsome
  refine ⟨found.entry, ?_, ?_⟩
  · rw [target?, lookup?_eq_some_cons.2 ⟨hlength, hfound, heq⟩]
    rfl
  · rw [hchosen, Catalog.shownSchema_eq]

/-- A report on entries in schemas of their own says what it is expected to say. -/
theorem reports_of_mem_reports {family : Bool} {a : Ambiguity} (h : (family, a) ∈ r.reports references)
    (hown : InSchemasOfTheirOwn (r.namesakes (family, a.name))) : r.Reports references (family, a.name) a := by
  obtain ⟨hlength, hschemas, found, hfound, hchosen⟩ := of_mem_reports h
  obtain ⟨f, hf, g, hg, hother⟩ := hown.several_iff.2 hlength
  exact {
    name := rfl
    schemas := fun schema => by rw [hschemas, List.mem_map]
    several := by
      rw [hschemas]
      exact ⟨_, List.mem_map_of_mem hf, _, List.mem_map_of_mem hg, hother⟩
    once := by
      rw [hschemas, List.pairwise_map]
      exact hown
    chosen := by
      rw [hschemas, hchosen]
      exact List.mem_map_of_mem (mem_of_preferred? hfound)
    resolved := fun _ _ hkey => target?_of_mem_reports h hkey }

/-- The reports on a batch are what they are expected to be exactly if the entries that any of its names may mean are in
schemas of their own. -/
theorem reportsTruly_iff (r : Resolver) (references : List Reference) : r.ReportsTruly references ↔
    ∀ reference ∈ references, InSchemasOfTheirOwn (r.namesakes (lookupKey reference)) := by
  constructor
  · rintro ⟨keys, _, _, hreports⟩ reference hmem
    rcases Nat.lt_or_ge (r.namesakes (lookupKey reference)).length 2 with hlength | hlength
    · exact inSchemasOfTheirOwn_of_length hlength
    · -- there is a report on the name, and its schemas are those of the entries
      obtain ⟨⟨family, a⟩, hreport, hkey⟩ :=
        List.mem_map.1 (mem_map_reportKey.2 ⟨reference, hmem, rfl, hlength⟩)
      obtain ⟨_, hschemas, _⟩ := of_mem_reports hreport
      have ha : a ∈ (r.resolve references).ambiguous := List.mem_map.2 ⟨_, hreport, rfl⟩
      have honce := ((List.forall₂_and_left _ _).1 (hreports.flip.imp fun a key h => ⟨h.once, h⟩)).1 a ha
      change (family, a.name) = lookupKey reference at hkey
      rw [hschemas, List.pairwise_map, hkey] at honce
      exact honce
  · intro hown
    refine ⟨(r.reports references).map reportKey, nodup_map_distinctBy _ _ _, fun key => ?_, ?_⟩
    · rw [mem_map_reportKey]
      refine exists_congr fun reference => and_congr_right fun hmem => and_congr_right fun hkey => ?_
      rw [← hkey, (hown reference hmem).several_iff]
    · rw [ambiguous_resolve, List.forall₂_map_left_iff, List.forall₂_map_right_iff, List.forall₂_same]
      rintro ⟨family, a⟩ hreport
      obtain ⟨reference, hmem, hkey, _⟩ := mem_map_reportKey.1 (List.mem_map_of_mem hreport)
      have hnamesakes := hown reference hmem
      rw [hkey] at hnamesakes
      exact reports_of_mem_reports hreport hnamesakes

theorem reportsTruly_usersAndStaff :
    let r := ofCatalog 1 usersAndStaff []
    let references := ["Users", "[STAFF]", "users", "hr.Staff"].map Store.referenceTo
    (∀ reference ∈ references, InSchemasOfTheirOwn (r.namesakes (lookupKey reference))) ∧ r.ReportsTruly references ∧
      (r.resolve references).ambiguous = [⟨"users", ["sales", "dbo"], "dbo"⟩, ⟨"staff", ["hr", "ops"], "hr"⟩] := by
  intro r references
  have hown : ∀ reference ∈ references, InSchemasOfTheirOwn (r.namesakes (lookupKey reference)) := by decide +kernel
  exact ⟨hown, (reportsTruly_iff r references).2 hown, by decide +kernel⟩

/-- A table and a view of one schema are reported as if in two. -/
theorem not_reportsTruly_tableAndView :
    let r := ofCatalog 1 [⟨⟨.table, 1⟩, some "dbo", "Users"⟩, ⟨⟨.view, 2⟩, some "dbo", "Users"⟩] []
    let references := [Store.referenceTo "Users"]
    (r.resolve references).ambiguous = [⟨"users", ["dbo", "dbo"], "dbo"⟩] ∧ ¬ r.ReportsTruly references := by
  intro r references
  have hambiguous : (r.resolve references).ambiguous = [⟨"users", ["dbo", "dbo"], "dbo"⟩] := by decide +kernel
  refine ⟨hambiguous, ?_⟩
  rintro ⟨keys, _, _, hreports⟩
  rw [hambiguous] at hreports
  cases hreports with
  | cons report _ =>
    have honce := report.once
    exact (List.pairwise_cons.1 honce).1 "dbo" List.mem_cons_self (sameCase_iff.2 rfl)

end Resolver

end ChangeImpact
